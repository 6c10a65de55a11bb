import FlatTables.Value

/-!
# Schemas

A schema is the ordered list of a table's attributes, whose names are distinct. Building one
fails exactly on the first name that occurs for the second time. Projecting a schema on a list of
names keeps the types and takes the order of the names.
-/

namespace FlatTables

/-- A named, typed column. -/
structure Attribute where
  name : String
  type : AttributeType
  deriving DecidableEq, Repr

/-- The text of an attribute: its name and type. -/
def Attribute.text (attr : Attribute) : String :=
  attr.name ++ ":" ++ attr.type.name

/-- The first member of a list that occurs before it in the list or among those already seen. -/
def firstRepeated? [DecidableEq α] (seen : List α) : List α → Option α
  | [] => none
  | x :: rest => if x ∈ seen then some x else firstRepeated? (x :: seen) rest

theorem firstRepeated?_eq_none_iff [DecidableEq α]
    (seen list : List α) :
    firstRepeated? seen list = none ↔ list.Nodup ∧ ∀ x ∈ list, x ∉ seen := by
  induction list generalizing seen with
  | nil => simp [firstRepeated?]
  | cons x rest inductionHypothesis =>
      by_cases known : x ∈ seen
      · simp [firstRepeated?, known]
      · simp only [firstRepeated?, known, if_false, inductionHypothesis, List.mem_cons, not_or,
          List.nodup_cons]
        constructor
        · rintro ⟨nodup, fresh⟩
          refine ⟨⟨fun member => (fresh x member).1 rfl, nodup⟩, ?_⟩
          rintro y (rfl | member)
          · exact known
          · exact (fresh y member).2
        · rintro ⟨⟨absent, nodup⟩, fresh⟩
          refine ⟨nodup, fun y member => ⟨?_, fresh y (.inr member)⟩⟩
          rintro rfl
          exact absent member

/-- An attribute name that occurs twice. -/
structure RepeatedName where
  name : String
  deriving DecidableEq, Repr

/-- The wording of a repeated name. -/
def RepeatedName.message (fault : RepeatedName) : String :=
  "Duplicate attribute name: " ++ Text.quoted fault.name

/-- An ordered list of attributes with distinct names. -/
structure Schema where
  attributes : List Attribute
  nodup_names : (attributes.map Attribute.name).Nodup
  deriving DecidableEq, Repr

namespace Schema

/-- Build a schema from its attributes. -/
def ofAttributes (attributes : List Attribute) : Except RepeatedName Schema :=
  match repeated : firstRepeated? [] (attributes.map Attribute.name) with
  | some name => .error ⟨name⟩
  | none => .ok ⟨attributes, ((firstRepeated?_eq_none_iff _ _).1 repeated).1⟩

/-- The number of attributes. -/
def arity (schema : Schema) : Nat :=
  schema.attributes.length

/-- The attribute names in order. -/
def names (schema : Schema) : List String :=
  schema.attributes.map Attribute.name

/-- The attribute types in order. -/
def types (schema : Schema) : List AttributeType :=
  schema.attributes.map Attribute.type

/-- The position of a name, compared exactly. -/
def indexOf? (schema : Schema) (name : String) : Option Nat :=
  schema.names.findIdx? (· = name)

/-- The attribute with a given name. -/
def attribute? (schema : Schema) (name : String) : Option Attribute :=
  schema.attributes.find? (·.name = name)

/-- The schema has an attribute with this name. -/
def has (schema : Schema) (name : String) : Bool :=
  name ∈ schema.names

/-- The text of a schema: its attributes in parentheses. -/
def text (schema : Schema) : String :=
  "(" ++ String.intercalate ", " (schema.attributes.map Attribute.text) ++ ")"

/-- Why a schema has no projection on a list of names. -/
inductive ProjectionFault
  | unknown (name : String)
  | repeated (fault : RepeatedName)
  deriving DecidableEq, Repr

/-- The attributes with the given names, or the first name that is not in the schema. -/
def select (schema : Schema) : List String → Except ProjectionFault (List Attribute)
  | [] => .ok []
  | name :: rest =>
      match schema.attribute? name with
      | none => .error (.unknown name)
      | some attr => (select schema rest).map (attr :: ·)

/-- The schema of the given names, in their order. -/
def project (schema : Schema) (names : List String) : Except ProjectionFault Schema :=
  match schema.select names with
  | .error fault => .error fault
  | .ok attributes => (ofAttributes attributes).mapError .repeated

end Schema
end FlatTables
