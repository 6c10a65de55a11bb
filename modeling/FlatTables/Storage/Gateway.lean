import FlatTables.Fault
import FlatTables.Telemetry.Event

/-!
# Gateways

A gateway loads all tables and takes note of every change: one row added to a table, or a new
content of a whole table. It works on a state of its own. A write that fails leaves that state
as it was, and the failure is either one that the engine reports with the result, or one that
stops the statement. What an interrupted write leaves in a file is told by its steps; here it is a
change from outside.
-/

namespace FlatTables
namespace Storage

open Telemetry (Event)

/-- Why a write has failed. -/
inductive WriteFault
  | storage (fault : StorageFault)
  | system (fault : SystemFault)
  | nullCharacter
  | oversizedInteger
  deriving DecidableEq, Repr

namespace WriteFault

/-- The message of a failure that the engine reports with the result; other failures stop the
statement. -/
def reported? : WriteFault → Option String
  | .storage fault => some fault.message
  | .system fault => some fault.message
  | .nullCharacter | .oversizedInteger => none

/-- A failed write as a fault. -/
def toFault : WriteFault → Fault
  | .storage fault => .storage fault
  | .system fault => .system fault
  | .nullCharacter => .nullCharacter
  | .oversizedInteger => .oversizedInteger

/-- The failure of a file operation. -/
def ofAccess : AccessFault → WriteFault
  | .system fault => .system fault
  | .nullCharacter => .nullCharacter

end WriteFault

/-- What loading tables came to: the catalog or a fault, and the events logged on the way. -/
structure LoadReport where
  result : Except Fault Catalog
  events : List Event

/-- What a write came to: the state with the change, or a failure. -/
structure WriteReport (σ : Type) where
  result : Except WriteFault σ
  events : List Event

/-- The state of a gateway after a write. -/
def WriteReport.state (report : WriteReport σ) (before : σ) : σ :=
  match report.result with
  | .ok after => after
  | .error _ => before

/-- A place that keeps tables, with states of type `σ`. -/
structure Gateway (σ : Type) where
  load : σ → LoadReport
  append : Table → Row → σ → WriteReport σ
  overwrite : Table → σ → WriteReport σ

end Storage
end FlatTables
