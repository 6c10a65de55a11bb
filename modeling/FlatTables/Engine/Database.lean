import FlatTables.Engine.Execution
import FlatTables.Query.Parser

/-!
# Databases

A database is a gateway state together with the tables loaded from it. It has to be started
before it takes statements. A rejected statement is a normal reply; every other fault passes to
the caller, and then the statement is not counted.
-/

namespace FlatTables
namespace Engine

open Query (Statement StatementType)
open Storage (Gateway)
open Telemetry (Context Observation Signal Span StatementLabel)

/-- The state of the gateway, the catalog of a started database, how many statements were
answered, how many of them were rejected, and the number of the last statement. Numbers are given
throughout a process, so what comes last may have been a statement of another database. -/
structure Database (σ : Type) where
  storage : σ
  catalog : Option Catalog := none
  executed : Nat := 0
  failed : Nat := 0
  lastStatement : Nat := 0

/-- What one call came to, with the new state and all signals on the way. -/
structure Turn (σ α : Type) where
  result : Except Fault α
  database : Database σ
  signals : List Signal

/-- Whether a database is started, its counters, and the sizes of its tables if it is started. -/
structure Statistics where
  started : Bool
  executed : Nat
  failed : Nat
  tables : Option (List (String × Nat))
  deriving DecidableEq, Repr

namespace Database

/-- The database takes statements. -/
def isStarted (database : Database σ) : Bool :=
  database.catalog.isSome

/-- The catalog of a started database. -/
def loaded (database : Database σ) : Except Fault Catalog :=
  match database.catalog with
  | some catalog => .ok catalog
  | none => .error .notStarted

/-- A call that changes nothing. -/
def refuse (database : Database σ) (fault : Fault) : Turn σ α :=
  ⟨.error fault, database, []⟩

/-- Load the tables. -/
def start (gateway : Gateway σ) (database : Database σ) : Turn σ Unit :=
  if database.isStarted then database.refuse .alreadyStarted
  else
    let report := gateway.load database.storage
    let read := report.events.map Signal.event
    match report.result with
    | .error fault =>
        ⟨.error fault, database, Signal.inSpan Span.startName read (.start (some fault))⟩
    | .ok catalog =>
        ⟨.ok (), { database with catalog := some catalog },
          Signal.inSpan Span.startName read (.start none) ++
            [.observation (.tablesLoaded catalog.tables.length),
              .event (.engineStarted catalog.names)]⟩

/-- Release the tables. -/
def stop (database : Database σ) : Turn σ Unit :=
  if database.isStarted then
    ⟨.ok (), { database with catalog := none },
      [.observation (.tablesLoaded 0), .event .engineStopped]⟩
  else database.refuse .notStarted

/-- The last signals of a statement: one observation and one event. -/
def closing (label : StatementLabel) (reply : Reply) : List Signal :=
  [.observation (.statement label reply.success),
   .event (match reply with
    | .accepted outcome =>
        .statementExecuted label outcome.affectedRows outcome.persisted
    | .rejected _ rejection => .statementRejected label rejection.kind rejection.message)]

/-- Count a statement that has a reply. -/
def count (database : Database σ) (reply : Reply) : Database σ :=
  { database with
    executed := database.executed + 1
    failed := database.failed + if reply.success then 0 else 1 }

/-- The span of a statement that was carried out. -/
def statementSpan (statement : Statement) (result : Except Fault Outcome) : Span :=
  .statement statement.type statement.table
    (match result with
    | .ok outcome => .done outcome.affectedRows outcome.persisted
    | .error fault => .failed fault)

/-- The reply to a statement that was carried out; only rejections are replies. -/
def replyTo (type : StatementType) : Except Fault Outcome → Except Fault Reply
  | .ok outcome => .ok (.accepted outcome)
  | .error (.rejected rejection) => .ok (.rejected type rejection)
  | .error fault => .error fault

/-- Carry out a statement that could be read. -/
def carryOut (gateway : Gateway σ) (database : Database σ) (catalog : Catalog)
    (statement : Statement) : Turn σ Reply :=
  let execution := Execution.ofStatement gateway ⟨catalog, database.storage⟩ statement
  let after : Database σ :=
    { database with
      storage := execution.store.storage
      catalog := some execution.store.catalog }
  let signals := Signal.inSpan (Span.statementName statement.type) execution.signals
    (statementSpan statement execution.result)
  match replyTo statement.type execution.result with
  | .ok reply =>
      ⟨.ok reply, after.count reply, signals ++ closing (.parsed statement.type) reply⟩
  | .error fault => ⟨.error fault, after, signals⟩

/-- Read a statement and carry it out. -/
def answer (gateway : Gateway σ) (database : Database σ) (catalog : Catalog) (sql : String) :
    Turn σ Reply :=
  match Statement.parse sql with
  | .error rejection =>
      let reply := Reply.rejected none rejection
      ⟨.ok reply, database.count reply,
        Signal.inSpan Span.parseName (closing .unparsed reply) (.parse (some rejection))⟩
  | .ok statement =>
      let turn := carryOut gateway database catalog statement
      { turn with signals := Signal.inSpan Span.parseName [] (.parse none) ++ turn.signals }

/-- Execute one statement. Its log entries carry its number and its text. -/
def execute (gateway : Gateway σ) (database : Database σ) (sql : String) : Turn σ Reply :=
  match database.catalog with
  | none => database.refuse .notStarted
  | some catalog =>
      let number := database.lastStatement + 1
      let turn := answer gateway { database with lastStatement := number } catalog sql
      let context : Context := ⟨number, Telemetry.loggedText sql⟩
      { turn with signals := turn.signals.map (Signal.within context) }

/-- Execute statements in order. Rejections do not stop the run, other faults do. -/
def executeMany (gateway : Gateway σ) (database : Database σ) : List String → Turn σ (List Reply)
  | [] => ⟨.ok [], database, []⟩
  | sql :: rest =>
      let turn := execute gateway database sql
      match turn.result with
      | .error fault => ⟨.error fault, turn.database, turn.signals⟩
      | .ok reply =>
          let others := executeMany gateway turn.database rest
          ⟨others.result.map (reply :: ·), others.database, turn.signals ++ others.signals⟩

/-- The names and sizes of tables. -/
def sizes (catalog : Catalog) : List (String × Nat) :=
  catalog.tables.map fun table => (table.name.getD "", table.size)

/-- The statistics of a database. -/
def statistics (database : Database σ) : Statistics where
  started := database.isStarted
  executed := database.executed
  failed := database.failed
  tables := database.catalog.map sizes

end Database
end Engine
end FlatTables
