import FlatTables.Catalog
import FlatTables.Storage.Fault
import FlatTables.Text.Encoding

/-!
# Faults

Everything that can go wrong, from a rejected statement to a misuse of the engine. A fault has a
class, which front ends and traces show, and a message.
-/

namespace FlatTables

open Storage (StorageFault SystemFault AccessFault)

/-- A failure of some operation of the engine or one of its parts. -/
inductive Fault
  | rejected (rejection : Rejection)
  | storage (fault : StorageFault)
  | system (fault : SystemFault)
  | nullCharacter
  | encoding (fault : Text.EncodingFault)
  | scalar (fault : ScalarFault)
  | oversizedInteger
  | repeatedName (fault : RepeatedName)
  | row (fault : RowFault)
  | catalog (fault : CatalogFault)
  | matching (fault : MatchFault)
  | unordered (fault : UnorderedFault)
  | noSuchElement (sequence : String)
  | unknownTypeName (name : String)
  | unknownOperator (symbol : String)
  | notStatement (kind : String)
  | alreadyStarted
  | notStarted
  deriving DecidableEq, Repr

namespace Fault

/-- The class of a system fault with a given number. -/
def systemLabel (number : Int) : String :=
  if number = 1 ∨ number = 13 then "PermissionError"
  else if number = 2 then "FileNotFoundError"
  else if number = 3 then "ProcessLookupError"
  else if number = 4 then "InterruptedError"
  else if number = 10 then "ChildProcessError"
  else if number = 11 ∨ number = 114 ∨ number = 115 then "BlockingIOError"
  else if number = 17 then "FileExistsError"
  else if number = 20 then "NotADirectoryError"
  else if number = 21 then "IsADirectoryError"
  else if number = 32 ∨ number = 108 then "BrokenPipeError"
  else if number = 103 then "ConnectionAbortedError"
  else if number = 104 then "ConnectionResetError"
  else if number = 110 then "TimeoutError"
  else if number = 111 then "ConnectionRefusedError"
  else "OSError"

/-- The class of a fault. -/
def label : Fault → String
  | .rejected rejection => rejection.label
  | .storage fault => fault.label
  | .system (.numbered number _ _) => systemLabel number
  | .system (.plain _) => "OSError"
  | .encoding _ => "UnicodeDecodeError"
  | .scalar .tooLarge => "OverflowError"
  | .scalar (.wrongKind ..) | .row (.type ..) | .matching (.incomparable ..) | .unordered _
  | .notStatement _ => "TypeError"
  | .nullCharacter | .oversizedInteger | .repeatedName _ | .row (.arity ..) | .catalog _
  | .unknownTypeName _ | .unknownOperator _ => "ValueError"
  | .matching .noSuchOrdinal | .noSuchElement _ => "IndexError"
  | .alreadyStarted | .notStarted => "RuntimeError"

/-- The message of a fault. -/
def message : Fault → String
  | .rejected rejection => rejection.message
  | .storage fault => fault.message
  | .system fault => fault.message
  | .nullCharacter => "embedded null byte"
  | .encoding fault => fault.message
  | .scalar fault => fault.message
  | .oversizedInteger =>
      "Exceeds the limit (" ++ toString Decimal.maxIntegerDigits ++ " digits) for integer string "
        ++ "conversion; use sys.set_int_max_str_digits() to increase the limit"
  | .repeatedName fault => fault.message
  | .row fault => fault.message
  | .catalog fault => fault.message
  | .matching fault => fault.message
  | .unordered fault => fault.message
  | .noSuchElement sequence => sequence ++ " index out of range"
  | .unknownTypeName name => "Unknown attribute type: " ++ Text.quoted name
  | .unknownOperator symbol => Text.quoted symbol ++ " is not a valid ComparisonOp"
  | .notStatement kind => "Unsupported statement type: " ++ kind
  | .alreadyStarted => "Database engine already started"
  | .notStarted => "Database engine not started"

/-- The fault of a failed file operation. -/
def ofAccess : AccessFault → Fault
  | .system fault => .system fault
  | .nullCharacter => .nullCharacter

end Fault
end FlatTables
