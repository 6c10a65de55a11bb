import FlatTables.Storage.Fault
import FlatTables.Table
import FlatTables.Text.Encoding
import FlatTables.Text.Field

/-!
# Data files

A data file holds one row a line, its fields separated by commas without any escapes. Blanks
around a field do not belong to it, and blank lines are skipped. A row can be written only if no
field of it holds a separator or line break and its line would not be blank.
-/

namespace FlatTables
namespace Storage
namespace DataFile

/-- Read fields as the values of attributes, stopping at the first that does not fit. -/
def readFields : List Attribute → List (List Char) → Except Rejection Row
  | attr :: attrs, field :: fields =>
      match Literal.readField attr.type (String.ofList (Text.trimChars field)) with
      | .error rejection => .error rejection
      | .ok value => (readFields attrs fields).map (value :: ·)
  | _, _ => .ok []

/-- Read the line of a row. -/
def readLine (path : Path) (schema : Schema) (number : Nat) (line : List Char) :
    Except StorageFault Row :=
  let fields := Text.splitFields Literal.fieldSeparator line
  if fields.length ≠ schema.arity then
    .error (.fieldCount schema.arity fields.length path number)
  else (readFields schema.attributes fields).mapError (.badField · path number)

/-- Read numbered lines in order, skipping blank ones and stopping at the first fault. -/
def readLines (path : Path) (schema : Schema) :
    List (String × Nat) → Except StorageFault (List Row)
  | [] => .ok []
  | (line, number) :: rest =>
      if Text.isBlankText line then readLines path schema rest
      else
        match readLine path schema number line.toList with
        | .error fault => .error fault
        | .ok row => (readLines path schema rest).map (row :: ·)

/-- Read the text of a data file. -/
def ofText (path : Path) (schema : Schema) (text : String) : Except StorageFault (List Row) :=
  readLines path schema ((Text.lines text).zipIdx 1)

/-- Why a row cannot be written. -/
inductive EncodingFault
  | oversizedInteger
  | needsEscape (field : String)
  | blank
  deriving DecidableEq, Repr

/-- The line of a row. -/
def encode (row : Row) : Except EncodingFault String :=
  match row.mapM Value.format? with
  | none => .error .oversizedInteger
  | some fields =>
      match fields.find? (·.toList.any Literal.isUnstorable) with
      | some field => .error (.needsEscape field)
      | none =>
          let line := String.intercalate "," fields
          if Text.isBlankText line then .error .blank else .ok (line ++ "\n")

/-- The lines of rows, or why the first row that has none has none. -/
def encodeAll : List Row → Except EncodingFault (List String)
  | [] => .ok []
  | row :: rest =>
      match encode row with
      | .error fault => .error fault
      | .ok line => (encodeAll rest).map (line :: ·)

/-- The text of a data file with given lines. -/
def textOf (lines : List String) : String :=
  String.join lines

/-- A row appended to a file starts on a line of its own: either the file is empty or missing, or
it ends with a line feed. -/
def endsLine (content : ByteArray) : Bool :=
  content.size == 0 || content[content.size - 1]? == some 0x0A

/-- The text that is added to a file for a line: on a file that does not end its line, a break
comes first. -/
def ownLine (atLineStart : Bool) (line : String) : String :=
  if atLineStart then line else "\n" ++ line

end DataFile
end Storage
end FlatTables
