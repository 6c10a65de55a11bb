import FlatTables.Rejection
import FlatTables.Row

/-!
# Literals and fields

A literal written in a statement loses one layer of single quotes before it is read as a value of
its attribute's type; a field of a data file is read as it is. A row of values can be stored only
if no text of it holds a field separator or line break and it is not a single blank text, since
data files have no escapes and skip blank lines.
-/

namespace FlatTables
namespace Literal

/-- Drop one layer of surrounding single quotes, if there is one. -/
def stripQuotesChars (literal : List Char) : List Char :=
  match literal with
  | '\'' :: rest =>
      if rest.getLast? = some '\'' then rest.dropLast else literal
  | _ => literal

/-- The same on texts. -/
def stripQuotes (literal : String) : String :=
  String.ofList (stripQuotesChars literal.toList)

/-- Read a text as a value of a type. -/
def readAs? (type : AttributeType) (text : List Char) : Option Value :=
  match type with
  | .integer => (Decimal.readInteger? text).map .integer
  | .text => some (.text (String.ofList text))
  | .real => (Decimal.readReal? text).map .real

/-- The part of a literal that is read: numbers may have blanks around them, outside and inside
the quotes. -/
def body (type : AttributeType) (literal : List Char) : List Char :=
  match type with
  | .text => stripQuotesChars literal
  | _ => Text.trimChars (stripQuotesChars (Text.trimChars literal))

/-- Read a literal of a statement as a value of a type. -/
def coerce (type : AttributeType) (literal : String) : Except Rejection Value :=
  match readAs? type (body type literal.toList) with
  | some value => .ok value
  | none => .error (.invalidLiteral literal type none)

/-- Read a field of a data file as a value of a type. -/
def readField (type : AttributeType) (field : String) : Except Rejection Value :=
  match readAs? type field.toList with
  | some value => .ok value
  | none => .error (.invalidLiteral field type none)

/-- The character that separates the fields of a line. -/
def fieldSeparator : Char := ','

/-- Characters that a data file cannot hold inside a field. -/
def isUnstorable (c : Char) : Bool :=
  c == fieldSeparator || c == '\n' || c == '\r'

/-- The value is a text with a character that a data file cannot hold. -/
def holdsSeparator : Value → Bool
  | .text s => s.toList.any isUnstorable
  | _ => false

/-- The first literal whose value holds an unstorable character. -/
def firstSeparated? : List Value → List String → Option String
  | value :: values, literal :: literals =>
      if holdsSeparator value then some literal else firstSeparated? values literals
  | _, _ => none

/-- Why a list of values has no place in a data file. -/
inductive StorableFault
  | rejected (rejection : Rejection)
  | noLiteral
  deriving DecidableEq, Repr

/-- Check that a row of values can be stored; `literals` are what the values were written as. -/
def ensureStorable (values : List Value) (literals : List String) : Except StorableFault Unit :=
  match firstSeparated? values literals with
  | some literal => .error (.rejected (.invalidLiteral literal .text (some .separator)))
  | none =>
      match values with
      | [.text s] =>
          if Text.isBlankText s then
            match literals with
            | literal :: _ => .error (.rejected (.invalidLiteral literal .text (some .blankRow)))
            | [] => .error .noLiteral
          else .ok ()
      | _ => .ok ()

/-- Read literals as the values of attributes, stopping at the first that does not fit. -/
def coerceAll : List Attribute → List String → Except Rejection (List Value)
  | attr :: attrs, literal :: literals =>
      match coerce attr.type literal with
      | .error rejection => .error rejection
      | .ok value => (coerceAll attrs literals).map (value :: ·)
  | _, _ => .ok []

end Literal
end FlatTables
