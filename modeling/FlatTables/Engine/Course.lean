import FlatTables.Engine.Database
import FlatTables.Update

/-!
# The course of a statement

The steps in which a text is read and executed: a table is looked up, what is given is checked, the
table is changed in place, and the gateway is asked to write the change. Steps leave a database
behind whether they succeed or fail: what was changed before a failure stays changed.
-/

namespace FlatTables
namespace Engine

open Query (Columns Statement)
open Storage (Gateway WriteReport)
open Telemetry (Context Event Signal Span StatementLabel WriteOperation)

/-- A database in the course of a call, the context that log entries are put into, and the signals
given so far. -/
structure Ongoing (σ : Type) where
  database : Database σ
  context : Option Context := none
  signals : List Signal := []

/-- Steps on a database: they end with a result or a fault and leave a database behind. -/
abbrev Course (σ α : Type) := ExceptT Fault (StateM (Ongoing σ)) α

namespace Course

variable {σ α : Type}

/-- What steps come to, and what they leave behind. -/
def perform (course : Course σ α) (before : Ongoing σ) : Except Fault α × Ongoing σ :=
  course.run.run before

/-- A signal as it is given in a context, if there is one. -/
def placed : Option Context → Signal → Signal
  | none, signal => signal
  | some context, signal => signal.within context

/-- What is left once signals have been given. -/
def giving (signals : List Signal) (now : Ongoing σ) : Ongoing σ :=
  { now with signals := now.signals ++ signals.map (placed now.context) }

/-- Give signals. -/
def emit (signals : List Signal) : Course σ Unit :=
  modify (giving signals)

/-- Change the database. -/
def alter (change : Database σ → Database σ) : Course σ Unit :=
  modify fun now => { now with database := change now.database }

/-- Go through steps and tell what they come to. -/
def outcomeOf (course : Course σ α) : Course σ (Except Fault α) :=
  ExceptT.mk (Except.ok <$> course.run)

/-- Go through steps in a span that tells what they have come to. -/
def inSpan (name : String) (span : Except Fault α → Span) (course : Course σ α) : Course σ α := do
  emit [.opening name]
  let result ← outcomeOf course
  emit [.span (span result)]
  liftExcept result

/-- Go through steps whose log entries are put into a context. -/
def inContext (context : Context) (course : Course σ α) : Course σ α := do
  modify fun now => { now with context := some context }
  let result ← outcomeOf course
  modify fun now => { now with context := none }
  liftExcept result

/-- A step that can only fail by rejecting the statement. -/
def orReject (step : Except Rejection α) : Course σ α :=
  liftExcept (Plan.orReject step)

/-! ## Tables and writes -/

/-- Look a table up. -/
def resolve (name : String) : Course σ Table := do
  let catalog ← liftExcept (← get).database.loaded
  orReject (catalog.resolve name)

/-- Make a call on a table, which is changed in place. -/
def change (table : Table) (update : Update) : Course σ Table := do
  let ended := update.perform table
  alter fun database =>
    { database with catalog := database.catalog.map (·.update (table.name.getD "") ended.2) }
  liftExcept (ended.1.mapError Fault.row)
  return ended.2

/-- Have a change of a table written. A failure that can be reported is told by its message. -/
def persist (operation : WriteOperation) (table : Table) (write : σ → WriteReport σ) :
    Course σ (Option String) := do
  let report := write (← get).database.storage
  alter fun database => { database with storage := report.state database.storage }
  emit (report.events.map .event)
  match report.result with
  | .ok _ => return none
  | .error fault =>
      match fault.reported? with
      | none => throw fault.toFault
      | some message =>
          emit (Execution.failureSignals operation (table.name.getD "") message)
          return some message

/-- Complete a change of a table: have it written, count its rows, and tell what it has come to. -/
def complete (operation : WriteOperation) (table : Table) (write : σ → WriteReport σ)
    (outcome : String → Option String → Outcome) (event : String → Bool → Event) :
    Course σ Outcome := do
  let name := table.name.getD ""
  let failure ← persist operation table write
  emit (Execution.countRows (outcome name failure))
  emit [.event (event name failure.isNone)]
  return outcome name failure

/-! ## Statements -/

/-- Run a query. -/
def select (columns : Columns) (name : String) (condition : Option Condition) :
    Course σ Outcome := do
  let source ← resolve name
  let names := Plan.listed source.schema columns
  let ordinals ← orReject (Plan.ordinals source.schema names)
  orReject (Plan.checkDistinct names)
  let schema ← liftExcept (Plan.resultSchema source.schema names)
  let bound ← orReject (Plan.bindWhere condition source.schema)
  let sifted ← liftExcept (Plan.sift bound source.rows)
  let rows ← liftExcept (Plan.projectAll ordinals sifted.1)
  let result ← liftExcept ((Table.ofRows none schema rows).mapError Fault.row)
  emit (Execution.countRows (.selected result))
  return .selected result

/-- Insert a row. -/
def insert (gateway : Gateway σ) (name : String) (attributes literals : List String) :
    Course σ Outcome := do
  let table ← resolve name
  orReject (Plan.checkLists table attributes literals)
  let row ← orReject (Literal.coerceAll table.schema.attributes literals)
  liftExcept (Plan.checkStorable row literals)
  let table ← change table (.append row)
  complete .append table (gateway.append table row) .inserted .rowInserted

/-- Drop the rows of a table that meet an optional condition. All are dropped unchecked if there is
none. -/
def drop (table : Table) : Option Condition → Course σ Table
  | none => change table .truncate
  | some condition => do
      let bound ← orReject (Plan.bindWhere (some condition) table.schema)
      let sifted ← liftExcept (Plan.sift bound table.rows)
      change table (.replaceRows sifted.2)

/-- Delete rows. -/
def delete (gateway : Gateway σ) (name : String) (condition : Option Condition) :
    Course σ Outcome := do
  let table ← resolve name
  let shrunk ← drop table condition
  let deleted := table.size - shrunk.size
  complete .overwrite shrunk (gateway.overwrite shrunk) (fun name => .deleted name deleted)
    (fun name => .rowsDeleted name deleted)

/-- Carry out a statement. -/
def carryOut (gateway : Gateway σ) : Statement → Course σ Outcome
  | .select columns name condition => select columns name condition
  | .insert name attributes literals => insert gateway name attributes literals
  | .delete name condition => delete gateway name condition

/-! ## Texts -/

/-- Count a statement that has a reply. -/
def record (label : StatementLabel) (reply : Reply) : Course σ Unit := do
  alter (·.count reply)
  emit (Database.closing label reply)

/-- Read a statement and carry it out. -/
def answer (gateway : Gateway σ) (sql : String) : Course σ Reply := do
  emit [.opening Span.parseName]
  match Statement.parse sql with
  | .error rejection =>
      record .unparsed (.rejected none rejection)
      emit [.span (.parse (some rejection))]
      return .rejected none rejection
  | .ok statement =>
      emit [.span (.parse none)]
      let result ← outcomeOf (inSpan (Span.statementName statement.type)
        (Database.statementSpan statement) (carryOut gateway statement))
      let reply ← liftExcept (Database.replyTo statement.type result)
      record (.parsed statement.type) reply
      return reply

/-- Execute one statement. -/
def execute (gateway : Gateway σ) (sql : String) : Course σ Reply := do
  let now ← get
  if now.database.isStarted then
    let number := now.database.lastStatement + 1
    alter fun database => { database with lastStatement := number }
    inContext ⟨number, Telemetry.loggedText sql⟩ (answer gateway sql)
  else throw .notStarted

end Course
end Engine
end FlatTables
