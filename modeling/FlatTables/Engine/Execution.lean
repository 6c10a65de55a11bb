import FlatTables.Engine.Outcome
import FlatTables.Engine.Plan
import FlatTables.Storage.Gateway
import FlatTables.Telemetry.Signal

/-!
# Executions

A planned change first takes place in the catalog and is then written through the gateway. If the
write fails in a way that can be reported, the change stays and the outcome says so; otherwise
the change stays too, but the fault takes the place of the outcome.
-/

namespace FlatTables
namespace Engine

open Query (Statement)
open Storage (Gateway WriteFault WriteReport)
open Telemetry (Event Observation Signal WriteOperation)

/-- The loaded tables and the state of the gateway. -/
structure Store (σ : Type) where
  catalog : Catalog
  storage : σ

/-- What carrying out a statement came to, with the new state and all signals on the way. -/
structure Execution (σ : Type) where
  result : Except Fault Outcome
  store : Store σ
  signals : List Signal

namespace Execution

/-- The signals of a reported write failure. -/
def failureSignals (operation : WriteOperation) (table message : String) : List Signal :=
  [.event (.persistenceFailed operation table message),
   .observation (.writeFailure operation)]

/-- Count the rows a statement returned or changed, if there are any. -/
def countRows (outcome : Outcome) : List Signal :=
  if outcome.affectedRows = 0 then []
  else [.observation (.rowsAffected outcome.type outcome.affectedRows)]

/-- Complete a change of a table by its write. The outcome and the closing event depend on
whether a write failure is reported. -/
def ofWrite (operation : WriteOperation) (table : Table) (store : Store σ)
    (report : WriteReport σ) (outcome : String → Option String → Outcome)
    (event : String → Bool → Event) : Execution σ :=
  let name := table.name.getD ""
  let store : Store σ :=
    ⟨store.catalog.update name table, report.state store.storage⟩
  let written := report.events.map Signal.event
  let finish (failure : Option String) (signals : List Signal) : Execution σ :=
    let outcome := outcome name failure
    ⟨.ok outcome, store,
      written ++ signals ++ countRows outcome ++ [.event (event name failure.isNone)]⟩
  match report.result with
  | .ok _ => finish none []
  | .error fault =>
      match fault.reported? with
      | some message => finish (some message) (failureSignals operation name message)
      | none => ⟨.error fault.toFault, store, written⟩

/-- Carry out a plan. -/
def ofPlan (gateway : Gateway σ) (store : Store σ) : Plan → Execution σ
  | .select result =>
      let outcome := Outcome.selected result
      ⟨.ok outcome, store, countRows outcome⟩
  | .insert table row =>
      ofWrite .append table store (gateway.append table row store.storage) .inserted .rowInserted
  | .delete table deleted =>
      ofWrite .overwrite table store (gateway.overwrite table store.storage)
        (fun name => .deleted name deleted) (fun name => .rowsDeleted name deleted)

/-- Plan a statement and carry it out. -/
def ofStatement (gateway : Gateway σ) (store : Store σ) (statement : Statement) : Execution σ :=
  match Plan.ofStatement store.catalog statement with
  | .error fault => ⟨.error fault, store, []⟩
  | .ok plan => ofPlan gateway store plan

end Execution
end Engine
end FlatTables
