import FlatTables.Condition
import FlatTables.Storage.Workspace

/-!
# Storage faults

Why schemas and tables cannot be loaded or written. A fault names its cause and the file it is
about; faults of the schema file and of single lines of data files form classes of their own.
-/

namespace FlatTables
namespace Storage

/-- Why stored tables cannot be read or written. -/
inductive StorageFault
  | schemaNotFound (path : Path)
  | schemaUnreadable (cause : SystemFault) (path : Path)
  | malformedSchemaLine (number : Nat) (line : String) (path : Path)
  | malformedAttribute (token : String) (number : Nat) (path : Path)
  | unknownType (name : String) (number : Nat) (path : Path)
  | repeatedAttribute (fault : RepeatedName) (number : Nat) (path : Path)
  | repeatedTable (name : String) (number : Nat) (path : Path)
  | fieldCount (expected found : Nat) (path : Path) (number : Nat)
  | badField (rejection : Rejection) (path : Path) (number : Nat)
  | tableUnreadable (table : String) (cause : SystemFault) (path : Path)
  | needsEscape (field : String) (path : Path)
  | blankRow (path : Path)
  | unnamedTable
  | appendFailed (table : String) (cause : SystemFault) (path : Path)
  | overwriteFailed (cause : SystemFault) (path : Path)
  | refused (message : String) (path : Option String)
  deriving DecidableEq, Repr

namespace StorageFault

/-- The class of a storage fault. -/
def label : StorageFault → String
  | .schemaNotFound .. | .schemaUnreadable .. | .malformedSchemaLine ..
  | .malformedAttribute .. | .unknownType .. | .repeatedAttribute .. | .repeatedTable .. =>
      "SchemaFileError"
  | .fieldCount .. | .badField .. => "DataFileError"
  | .tableUnreadable .. | .needsEscape .. | .blankRow _ | .unnamedTable | .appendFailed ..
  | .overwriteFailed .. | .refused .. => "PersistenceError"

/-- The text of the path a fault is about, as its message shows it. -/
def shownPath? : StorageFault → Option String
  | .schemaNotFound path | .schemaUnreadable _ path | .malformedSchemaLine _ _ path
  | .malformedAttribute _ _ path | .unknownType _ _ path | .repeatedAttribute _ _ path
  | .repeatedTable _ _ path | .fieldCount _ _ path _ | .badField _ path _
  | .tableUnreadable _ _ path | .needsEscape _ path | .blankRow path
  | .appendFailed _ _ path | .overwriteFailed _ path => some path.text
  | .unnamedTable => none
  | .refused _ path => path

/-- The path a fault is about. -/
def path? (fault : StorageFault) : Option Path :=
  fault.shownPath?.map Path.ofString

/-- The line of a data file a fault is about. -/
def line? : StorageFault → Option Nat
  | .fieldCount _ _ _ number | .badField _ _ number => some number
  | _ => none

/-- What is wrong, without the path. -/
def cause : StorageFault → String
  | .schemaNotFound _ => "Schema file not found"
  | .schemaUnreadable cause _ => "Cannot read schema file: " ++ cause.message
  | .malformedSchemaLine number line _ =>
      "Malformed schema line " ++ toString number ++ ": " ++ Text.quoted line
  | .malformedAttribute token number _ =>
      "Malformed attribute " ++ Text.quoted token ++ " at line " ++ toString number
  | .unknownType name number _ =>
      "Unknown type " ++ Text.quoted name ++ " at line " ++ toString number
  | .repeatedAttribute fault number _ => fault.message ++ " at line " ++ toString number
  | .repeatedTable name number _ =>
      "Duplicate table " ++ Text.quoted name ++ " at line " ++ toString number
  | .fieldCount expected found _ number =>
      "Expected " ++ toString expected ++ " fields, found " ++ toString found ++ " at line "
        ++ toString number
  | .badField rejection _ number => rejection.message ++ " at line " ++ toString number
  | .tableUnreadable table cause _ =>
      "Cannot read table " ++ Text.quoted table ++ ": " ++ cause.message
  | .needsEscape field _ =>
      "Value " ++ Text.quoted field ++ " cannot be stored without escaping"
  | .blankRow _ => "A blank row cannot be stored"
  | .unnamedTable => "Cannot persist an unnamed result table"
  | .appendFailed table cause _ =>
      "Cannot append to table " ++ Text.quoted table ++ ": " ++ cause.message
  | .overwriteFailed cause _ => "Cannot rewrite table file: " ++ cause.message
  | .refused message _ => message

/-- The message of a storage fault: what is wrong, and the path in parentheses. -/
def message (fault : StorageFault) : String :=
  match fault.shownPath? with
  | some path => fault.cause ++ " (" ++ path ++ ")"
  | none => fault.cause

end StorageFault
end Storage
end FlatTables
