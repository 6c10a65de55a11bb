import FlatTables.Storage.Fault
import FlatTables.Text.CaseFold
import FlatTables.Text.Encoding
import FlatTables.Text.Field
import FlatTables.Text.Word

/-!
# Schema files

A schema file lists one table a line: its name, and in parentheses its attributes with their
types. Blank lines and lines that start with a number sign are skipped. The first line that is
malformed, names an unknown type or repeats a name is reported with its number.
-/

namespace FlatTables
namespace Storage

/-- A named schema. -/
abbrev NamedSchema := String × Schema

namespace SchemaFile

/-- An ASCII letter or the underscore, with which names of tables and attributes start. -/
def startsName (c : Char) : Bool :=
  c.isAlpha || c == '_'

/-- Split off the name a text starts with and the blanks after it. -/
def splitName? : List Char → Option (List Char × List Char)
  | [] => none
  | c :: rest =>
      if startsName c then
        some (c :: rest.takeWhile Text.isWord,
          (rest.dropWhile Text.isWord).dropWhile Text.isBlank)
      else none

/-- The name of the table of a schema line and the text between its parentheses. -/
def splitLine? (line : List Char) : Option (List Char × List Char) :=
  match splitName? line with
  | some (name, '(' :: rest) =>
      if rest.getLast? = some ')' then some (name, rest.dropLast) else none
  | _ => none

/-- The name and the type name of an attribute. -/
def splitAttribute? (token : List Char) : Option (List Char × List Char) :=
  match splitName? token with
  | some (name, ':' :: rest) =>
      let type := rest.dropWhile Text.isBlank
      if type ≠ [] ∧ type.all Char.isAlpha then some (name, type) else none
  | _ => none

/-- Read an attribute. -/
def readAttribute (path : Path) (number : Nat) (token : List Char) :
    Except StorageFault Attribute :=
  match splitAttribute? token with
  | none => .error (.malformedAttribute (String.ofList token) number path)
  | some (name, type) =>
      match AttributeType.ofName? (String.ofList type) with
      | none => .error (.unknownType (String.ofList type) number path)
      | some attributeType => .ok ⟨String.ofList name, attributeType⟩

/-- Read attributes in order, stopping at the first fault. -/
def readAttributes (path : Path) (number : Nat) :
    List (List Char) → Except StorageFault (List Attribute)
  | [] => .ok []
  | token :: rest =>
      match readAttribute path number (Text.trimChars token) with
      | .error fault => .error fault
      | .ok attr => (readAttributes path number rest).map (attr :: ·)

/-- Read a schema line. -/
def readLine (path : Path) (number : Nat) (line : List Char) : Except StorageFault NamedSchema :=
  match splitLine? line with
  | none => .error (.malformedSchemaLine number (String.ofList line) path)
  | some (name, attributes) =>
      match readAttributes path number (Text.splitFields ',' attributes) with
      | .error fault => .error fault
      | .ok attributes =>
          match Schema.ofAttributes attributes with
          | .error fault => .error (.repeatedAttribute fault number path)
          | .ok schema => .ok (String.ofList name, schema)

/-- The line is blank or a comment. -/
def isSkipped (line : List Char) : Bool :=
  line.head?.all (· = '#')

/-- Read numbered lines in order; `seen` holds the folded names of the tables before them. -/
def readLines (path : Path) (seen : List String) :
    List (List Char × Nat) → Except StorageFault (List NamedSchema)
  | [] => .ok []
  | (line, number) :: rest =>
      let line := Text.trimChars line
      if isSkipped line then readLines path seen rest
      else
        match readLine path number line with
        | .error fault => .error fault
        | .ok (name, schema) =>
            if Text.fold name ∈ seen then .error (.repeatedTable name number path)
            else (readLines path (Text.fold name :: seen) rest).map ((name, schema) :: ·)

/-- Read the text of a schema file. -/
def ofText (path : Path) (text : String) : Except StorageFault (List NamedSchema) :=
  readLines path [] ((Text.splitLines Text.isLineBoundary text.toList).zipIdx 1)

/-- The line of a schema file for a named schema. -/
def lineOf (named : NamedSchema) : String :=
  named.1 ++ named.2.text

end SchemaFile
end Storage
end FlatTables
