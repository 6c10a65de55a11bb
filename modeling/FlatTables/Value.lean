import FlatTables.Decimal.Text
import FlatTables.Document
import FlatTables.Text.Quoted

/-!
# Attribute types and values

An attribute holds integers of any size, texts, or double-precision numbers, and every value
belongs to exactly one of these types. Texts are kept as they are; an integer has a text only up
to a fixed number of digits, and a real number is written with the fewest digits that read back.
-/

namespace FlatTables

open Decimal (Binary64)

/-- The declared type of an attribute. -/
inductive AttributeType
  | integer
  | text
  | real
  deriving DecidableEq, Repr

namespace AttributeType

/-- The name of a type in messages and in the schema file. -/
def name : AttributeType → String
  | .integer => "Integer"
  | .text => "Text"
  | .real => "Real"

/-- The type with a given name, in any case of ASCII letters and with blanks around it. `String`
is a second name of `Text`. -/
def ofName? (name : String) : Option AttributeType :=
  let lower := (Text.trimChars name.toList).map Char.toLower
  if lower = "integer".toList then some .integer
  else if lower = "text".toList ∨ lower = "string".toList then some .text
  else if lower = "real".toList then some .real
  else none

end AttributeType

/-- A value of one of the attribute types. -/
inductive Value
  | integer (value : Int)
  | text (value : String)
  | real (value : Binary64)
  deriving DecidableEq, Repr

namespace Value

/-- The type a value belongs to. -/
def type : Value → AttributeType
  | .integer _ => .integer
  | .text _ => .text
  | .real _ => .real

/-- The text of a value in data files and result tables, or `none` for an integer with too many
digits. -/
def format? : Value → Option String
  | .integer n => (Decimal.integerText? n).map String.ofList
  | .text s => some s
  | .real x => some (String.ofList (Decimal.realText x))

/-- The text of a value in the display of a row: texts are quoted. -/
def display? : Value → Option String
  | .text s => some (Text.quoted s)
  | value => value.format?

end Value

/-- A scalar that cannot become a value of the type asked for. -/
inductive ScalarFault
  | wrongKind (type : AttributeType) (kind : String)
  | tooLarge
  deriving DecidableEq, Repr

namespace ScalarFault

/-- The kind of scalar that makes a value of a type. -/
def expectedKind : AttributeType → String
  | .integer => "int"
  | .text => "str"
  | .real => "float"

/-- The wording of a scalar fault. -/
def message : ScalarFault → String
  | .wrongKind type kind =>
      type.name ++ " attribute requires " ++ expectedKind type ++ ", got " ++ kind
  | .tooLarge => "int too large to convert to float"

end ScalarFault

/-- Make a value of a type from a scalar. Nothing is converted, except that an integer becomes
the nearest real number. -/
def Value.ofScalar (type : AttributeType) (scalar : Document) : Except ScalarFault Value :=
  match type, scalar with
  | .integer, .integer n => .ok (.integer n)
  | .text, .text s => .ok (.text s)
  | .real, .real x => .ok (.real x)
  | .real, .integer n =>
      match Binary64.ofInt? n with
      | some x => .ok (.real x)
      | none => .error .tooLarge
  | type, scalar => .error (.wrongKind type scalar.kind)

end FlatTables
