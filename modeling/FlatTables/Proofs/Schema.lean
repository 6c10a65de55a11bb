import FlatTables.Row
import FlatTables.Proofs.Except
import Mathlib.Data.List.Nodup

/-!
# Schemas and rows

A list of names has a projection exactly if it has no repetition and every name is in the schema,
and its attributes are then those found under the names. A checked row conforms to its schema, so
a value can be looked up by the name of its attribute as well as by its position.
-/

namespace FlatTables

/-- In a list with distinct keys, a member is found by its key. -/
theorem find?_key_eq_some
    {α β : Type}
    [DecidableEq β]
    {key : α → β}
    {list : List α}
    (nodup : (list.map key).Nodup)
    {member : α}
    (isMember : member ∈ list) :
    list.find? (key · = key member) = some member := by
  cases found : list.find? (key · = key member) with
  | none => exact absurd (List.find?_eq_none.1 found member isMember) (by simp)
  | some other =>
      have sameKey : key other = key member := by simpa using List.find?_some found
      rw [List.inj_on_of_nodup_map nodup (List.mem_of_find?_eq_some found) isMember sameKey]

/-- A member of a list is the first that occurs for the second time. -/
def FirstRepeat {α : Type} (list : List α) (own : α) : Prop :=
  ∃ before after, list = before ++ own :: after ∧ before.Nodup ∧ own ∈ before

/-- The search for a repetition stops at the first member that is among those before it or among
those seen before the list. -/
theorem firstRepeated?_eq_some_iff
    {α : Type}
    [DecidableEq α]
    (seen list : List α)
    (own : α) :
    firstRepeated? seen list = some own ↔
      ∃ before after, list = before ++ own :: after ∧
        (before.Nodup ∧ ∀ other ∈ before, other ∉ seen) ∧ (own ∈ seen ∨ own ∈ before) := by
  induction list generalizing seen with
  | nil => simp [firstRepeated?]
  | cons first rest inductionHypothesis =>
      by_cases known : first ∈ seen
      · rw [firstRepeated?, if_pos known, Option.some_inj]
        constructor
        · rintro rfl
          exact ⟨[], rest, rfl, by simp, .inl known⟩
        · rintro ⟨before, after, split, ⟨_, fresh⟩, _⟩
          cases before with
          | nil => exact (List.cons.inj split).1
          | cons other others =>
              obtain ⟨rfl, _⟩ := List.cons.inj split
              exact absurd known (fresh first List.mem_cons_self)
      · rw [firstRepeated?, if_neg known, inductionHypothesis]
        constructor
        · rintro ⟨before, after, rfl, ⟨nodup, fresh⟩, repeated⟩
          refine ⟨first :: before, after, rfl, ⟨?_, ?_⟩, ?_⟩
          · exact List.nodup_cons.2 ⟨fun member => fresh first member List.mem_cons_self, nodup⟩
          · refine List.forall_mem_cons.2 ⟨known, fun other member inSeen => ?_⟩
            exact fresh other member (List.mem_cons_of_mem first inSeen)
          · rw [List.mem_cons] at repeated ⊢
            tauto
        · rintro ⟨before, after, split, ⟨nodup, fresh⟩, repeated⟩
          cases before with
          | nil =>
              obtain ⟨rfl, _⟩ := List.cons.inj split
              simp [known] at repeated
          | cons other others =>
              obtain ⟨rfl, rfl⟩ := List.cons.inj split
              obtain ⟨absent, nodupOthers⟩ := List.nodup_cons.1 nodup
              refine ⟨others, after, rfl, ⟨nodupOthers, fun name member => ?_⟩, ?_⟩
              · refine List.not_mem_cons_of_ne_of_not_mem ?_
                  (fresh name (List.mem_cons_of_mem first member))
                rintro rfl
                exact absent member
              · rw [List.mem_cons] at repeated ⊢
                tauto

theorem firstRepeated?_nil_eq_some_iff
    {α : Type}
    [DecidableEq α]
    (list : List α)
    (own : α) :
    firstRepeated? [] list = some own ↔ FirstRepeat list own := by
  simp [firstRepeated?_eq_some_iff, FirstRepeat]

namespace Schema

theorem ofAttributes_eq_ok_iff
    (attributes : List Attribute)
    (schema : Schema) :
    ofAttributes attributes = .ok schema ↔ schema.attributes = attributes := by
  unfold ofAttributes
  split
  · rename_i name repeated
    have notNodup : ¬ (attributes.map Attribute.name).Nodup := by
      intro nodup
      rw [(firstRepeated?_eq_none_iff _ _).2 ⟨nodup, by simp⟩] at repeated
      cases repeated
    simp only [reduceCtorEq, false_iff]
    rintro rfl
    exact notNodup schema.nodup_names
  · obtain ⟨own, nodup⟩ := schema
    simp [eq_comm]

/-- Attributes form a schema exactly if no name is repeated. -/
theorem ofAttributes_of_nodup
    {attributes : List Attribute}
    (nodup : (attributes.map Attribute.name).Nodup) :
    ofAttributes attributes = .ok ⟨attributes, nodup⟩ :=
  (ofAttributes_eq_ok_iff _ _).2 rfl

theorem name_of_attribute?
    {schema : Schema}
    {name : String}
    {attr : Attribute}
    (found : schema.attribute? name = some attr) :
    attr.name = name := by
  simpa using List.find?_some found

/-- The attributes selected by names are those found under the names. -/
theorem select_eq_ok
    {schema : Schema}
    {names : List String}
    {attributes : List Attribute}
    (selected : schema.select names = .ok attributes) :
    attributes = names.filterMap schema.attribute? ∧ attributes.map Attribute.name = names := by
  induction names generalizing attributes with
  | nil =>
      cases selected
      exact ⟨rfl, rfl⟩
  | cons name rest inductionHypothesis =>
      cases found : schema.attribute? name with
      | none => simp [select, found] at selected
      | some attr =>
          simp only [select, found, map_eq_ok_iff] at selected
          obtain ⟨others, selectedRest, rfl⟩ := selected
          obtain ⟨attributesEq, namesEq⟩ := inductionHypothesis selectedRest
          constructor
          · rw [List.filterMap_cons, found, attributesEq]
          · rw [List.map_cons, name_of_attribute? found, namesEq]

/-- A projection has the attributes found under its names. -/
theorem project_eq_ok
    {schema result : Schema}
    {names : List String}
    (projected : schema.project names = .ok result) :
    result.attributes = names.filterMap schema.attribute? ∧ result.names = names := by
  unfold project at projected
  cases selected : schema.select names with
  | error fault => simp [selected] at projected
  | ok attributes =>
      simp only [selected, mapError_eq_ok_iff, ofAttributes_eq_ok_iff] at projected
      rw [Schema.names, projected]
      exact select_eq_ok selected

/-- An attribute of a schema is found by its name. -/
theorem attribute?_eq_some
    {schema : Schema}
    {attr : Attribute}
    (member : attr ∈ schema.attributes) :
    schema.attribute? attr.name = some attr :=
  find?_key_eq_some schema.nodup_names member

theorem exists_indexOf?
    {schema : Schema}
    {name : String}
    (member : name ∈ schema.names) :
    ∃ position, schema.indexOf? name = some position := by
  cases found : schema.indexOf? name with
  | none => exact absurd (List.findIdx?_eq_none_iff.1 found name member) (by simp)
  | some position => exact ⟨position, rfl⟩

theorem indexOf?_eq_none_iff
    (schema : Schema)
    (name : String) :
    schema.indexOf? name = none ↔ name ∉ schema.names := by
  rw [indexOf?, List.findIdx?_eq_none_iff]
  simp only [decide_eq_false_iff_not]
  exact ⟨fun absent member => absent name member rfl, fun absent other member same =>
    absent (same ▸ member)⟩

/-- An attribute stands at the position that its name has. -/
theorem indexOf?_of_getElem?
    {schema : Schema}
    {position : Nat}
    {attr : Attribute}
    (there : schema.attributes[position]? = some attr) :
    schema.indexOf? attr.name = some position := by
  obtain ⟨within, rfl⟩ := List.getElem?_eq_some_iff.1 there
  have inNames : position < schema.names.length := by simpa [Schema.names] using within
  have named : schema.names[position] = (schema.attributes[position]).name := by
    simp [Schema.names]
  rw [Schema.indexOf?, List.findIdx?_eq_some_iff_getElem]
  refine ⟨inNames, by simp [named], fun earlier before => ?_⟩
  rw [← named, decide_eq_true_eq]
  intro same
  have equal := (List.Nodup.getElem_inj_iff schema.nodup_names).1 same
  omega

/-- Distinct names of a schema have a projection. -/
theorem exists_project
    {schema : Schema}
    {names : List String}
    (members : ∀ name ∈ names, name ∈ schema.names)
    (nodup : names.Nodup) :
    ∃ result, schema.project names = .ok result := by
  have selected : ∃ attributes, schema.select names = .ok attributes := by
    clear nodup
    induction names with
    | nil => exact ⟨[], rfl⟩
    | cons name rest inductionHypothesis =>
        rw [List.forall_mem_cons] at members
        obtain ⟨attr, member, rfl⟩ := List.mem_map.1 members.1
        obtain ⟨others, selectedRest⟩ := inductionHypothesis members.2
        exact ⟨attr :: others, by simp [select, attribute?_eq_some member, selectedRest, Except.map]⟩
  obtain ⟨attributes, selected⟩ := selected
  have distinct : (attributes.map Attribute.name).Nodup := (select_eq_ok selected).2 ▸ nodup
  exact ⟨⟨attributes, distinct⟩, by simp [project, selected, ofAttributes_of_nodup distinct]⟩

/-- All names of a schema project it to itself. -/
theorem project_names (schema : Schema) : schema.project schema.names = .ok schema := by
  have selected : ∀ attributes, (∀ attr ∈ attributes, attr ∈ schema.attributes) →
      schema.select (attributes.map Attribute.name) = .ok attributes := by
    intro attributes members
    induction attributes with
    | nil => rfl
    | cons attr rest inductionHypothesis =>
        rw [List.forall_mem_cons] at members
        simp only [List.map_cons, select, attribute?_eq_some members.1,
          inductionHypothesis members.2]
        rfl
  simp only [project, names, selected schema.attributes fun _ member => member]
  rw [ofAttributes_of_nodup schema.nodup_names]
  rfl

end Schema

/-! ## Conforming rows -/

theorem Row.check_eq_ok_iff
    (row : Row)
    (schema : Schema) :
    row.check schema = .ok () ↔ row.Conforms schema := by
  have mismatch : ∀ (attributes : List Attribute) (row : Row),
      row.length = attributes.length →
        (Row.firstMismatch? attributes row = none ↔
          row.map Value.type = attributes.map Attribute.type) := by
    intro attributes
    induction attributes with
    | nil =>
        intro row sameLength
        simp [List.length_eq_zero_iff.1 sameLength, Row.firstMismatch?]
    | cons attr rest inductionHypothesis =>
        intro row sameLength
        cases row with
        | nil => cases sameLength
        | cons value values =>
            have restLength : values.length = rest.length := by simpa using sameLength
            by_cases sameType : value.type = attr.type
            · simp [Row.firstMismatch?, sameType, inductionHypothesis values restLength]
            · simp [Row.firstMismatch?, sameType]
  unfold Row.check Row.Conforms
  by_cases sameLength : row.length = schema.arity
  · rw [if_neg (not_not_intro sameLength)]
    have found := mismatch schema.attributes row sameLength
    cases first : Row.firstMismatch? schema.attributes row with
    | none => simpa [Schema.types] using found.1 first
    | some fault =>
        have differs : row.map Value.type ≠ schema.attributes.map Attribute.type :=
          fun equal => by simp [first] at found; exact found equal
        simpa [Schema.types] using differs
  · rw [if_pos sameLength]
    have differs : row.map Value.type ≠ schema.types := by
      intro conforms
      have lengths := congrArg List.length conforms
      simp only [Schema.types, List.length_map] at lengths
      exact sameLength lengths
    simpa using differs

/-- A conforming row has one value for every attribute. -/
theorem Row.Conforms.length_eq
    {row : Row}
    {schema : Schema}
    (conforms : row.Conforms schema) :
    row.length = schema.attributes.length := by
  simpa [Schema.types] using congrArg List.length conforms

/-- It has a value of the attribute's type at every place of an attribute. -/
theorem Row.Conforms.type_at
    {row : Row}
    {schema : Schema}
    (conforms : row.Conforms schema)
    {ordinal : Nat}
    {attr : Attribute}
    (attributeAt : schema.attributes[ordinal]? = some attr) :
    ∃ value, row[ordinal]? = some value ∧ value.type = attr.type := by
  have sameTypes := congrArg (·[ordinal]?) conforms
  simpa [Schema.types, attributeAt] using sameTypes

theorem Row.Conforms.ne_nil
    {row : Row}
    {schema : Schema}
    (conforms : row.Conforms schema)
    (attributes : schema.attributes ≠ []) :
    row ≠ [] := by
  rintro rfl
  exact attributes (List.length_eq_zero_iff.1 conforms.length_eq.symm)

/-! ## Values by name -/

/-- The value of a row under an attribute. -/
def Row.valueOf? (row : Row) (schema : Schema) (name : String) : Option Value :=
  ((schema.attributes.zip row).find? fun pair => pair.1.name = name).map Prod.snd

/-- The values of a row under some attributes. -/
def Row.valuesOf (row : Row) (schema : Schema) (names : List String) : Row :=
  names.filterMap (row.valueOf? schema)

private theorem find?_zip
    (attributes : List Attribute)
    (row : Row)
    (name : String) :
    ((attributes.zip row).find? fun pair => pair.1.name = name).map Prod.snd =
      ((attributes.map Attribute.name).findIdx? (· = name)).bind (row[·]?) := by
  induction attributes generalizing row with
  | nil => simp
  | cons attr rest inductionHypothesis =>
      cases row with
      | nil => simp
      | cons value values =>
          by_cases here : attr.name = name
          · simp [List.findIdx?_cons, here]
          · simp [List.findIdx?_cons, here, inductionHypothesis, Option.bind_map,
              Function.comp_def]

/-- A value found by name is the one at the position of the name. -/
theorem Row.valueOf?_eq
    (row : Row)
    (schema : Schema)
    (name : String) :
    row.valueOf? schema name = (schema.indexOf? name).bind (row[·]?) :=
  find?_zip schema.attributes row name

/-- A name has a position exactly if it has an attribute, and a conforming row has a value of the
attribute's type there. -/
theorem Row.Conforms.value_at
    {row : Row}
    {schema : Schema}
    (conforms : row.Conforms schema)
    {name : String}
    {ordinal : Nat}
    (found : schema.indexOf? name = some ordinal) :
    ∃ attr value, schema.attribute? name = some attr ∧ row[ordinal]? = some value ∧
      row.valueOf? schema name = some value ∧ value.type = attr.type := by
  have attributeAt : schema.attribute? name = schema.attributes[ordinal]? := by
    have index : schema.attributes.findIdx? (·.name = name) = some ordinal := by
      simpa [Schema.indexOf?, Schema.names, List.findIdx?_map, Function.comp_def] using found
    rw [Schema.attribute?, List.find?_eq_bind_findIdx?_getElem?, index, Option.bind_some]
  have within : ordinal < schema.attributes.length := by
    simpa [Schema.indexOf?, Schema.names] using (List.findIdx?_eq_some_iff_findIdx_eq.1 found).1
  obtain ⟨value, valueAt, sameType⟩ := conforms.type_at (List.getElem?_eq_getElem within)
  refine ⟨schema.attributes[ordinal], value, ?_, valueAt, ?_, sameType⟩
  · rw [attributeAt, List.getElem?_eq_getElem within]
  · rw [row.valueOf?_eq, found, Option.bind_some, valueAt]

/-- The values of a conforming row under all names of the schema are the row. -/
theorem Row.Conforms.valuesOf_names
    {row : Row}
    {schema : Schema}
    (conforms : row.Conforms schema) :
    row.valuesOf schema schema.names = row := by
  have lengths := conforms.length_eq
  have namesEq : schema.names = (schema.attributes.zip row).map fun pair => pair.1.name := by
    have attributesEq := List.map_fst_zip (Nat.le_of_eq lengths.symm)
    simpa [Schema.names, Function.comp_def] using
      congrArg (List.map Attribute.name) attributesEq.symm
  have nodup : schema.names.Nodup := schema.nodup_names
  rw [namesEq] at nodup
  have found : ∀ pair ∈ schema.attributes.zip row,
      row.valueOf? schema pair.1.name = some pair.2 := by
    intro pair member
    rw [Row.valueOf?, find?_key_eq_some nodup member, Option.map_some]
  calc row.valuesOf schema schema.names
      = (schema.attributes.zip row).filterMap fun pair => row.valueOf? schema pair.1.name := by
        rw [Row.valuesOf, namesEq, List.filterMap_map]
        rfl
    _ = (schema.attributes.zip row).filterMap fun pair => some pair.2 := List.filterMap_congr found
    _ = (schema.attributes.zip row).map Prod.snd := congrFun List.filterMap_eq_map _
    _ = row := List.map_snd_zip (Nat.le_of_eq lengths)

end FlatTables
