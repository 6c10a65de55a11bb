import FlatTables.Schema

/-!
# Rows

A row is a list of values. It conforms to a schema if it has one value for every attribute, each
of the attribute's type; checking it finds the first place where it does not.
-/

namespace FlatTables

/-- The values of one row, in the order of the attributes. -/
abbrev Row := List Value

/-- Why a row does not conform to a schema. -/
inductive RowFault
  | arity (count : Nat) (schema : Schema)
  | type (attr : Attribute) (given : AttributeType)
  deriving DecidableEq, Repr

/-- The wording of a row fault. -/
def RowFault.message : RowFault → String
  | .arity count schema =>
      "Row has " ++ toString count ++ " values, schema " ++ schema.text ++ " expects "
        ++ toString schema.arity
  | .type attr given =>
      "Attribute " ++ Text.quoted attr.name ++ " is " ++ attr.type.name ++ ", got "
        ++ given.name ++ " value"

namespace Row

/-- The row has one value of the right type for every attribute. -/
def Conforms (row : Row) (schema : Schema) : Prop :=
  row.map Value.type = schema.types

instance (row : Row) (schema : Schema) : Decidable (row.Conforms schema) :=
  inferInstanceAs (Decidable (_ = _))

/-- The first pair of an attribute and a value of another type. -/
def firstMismatch? : List Attribute → Row → Option RowFault
  | attr :: attrs, value :: values =>
      if value.type = attr.type then firstMismatch? attrs values
      else some (.type attr value.type)
  | _, _ => none

/-- Find out whether a row conforms to a schema, and if not, why. -/
def check (row : Row) (schema : Schema) : Except RowFault Unit :=
  if row.length ≠ schema.arity then .error (.arity row.length schema)
  else
    match firstMismatch? schema.attributes row with
    | some fault => .error fault
    | none => .ok ()

/-- The values at the given positions, in that order, or `none` if one lies outside the row. -/
def project? (row : Row) (ordinals : List Nat) : Option Row :=
  ordinals.mapM (row[·]?)

/-- The text of a row, or `none` if an integer has too many digits. -/
def display? (row : Row) : Option String :=
  (row.mapM Value.display?).map fun texts => "Row(" ++ String.intercalate ", " texts ++ ")"

end Row
end FlatTables
