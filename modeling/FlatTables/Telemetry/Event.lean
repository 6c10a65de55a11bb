import FlatTables.Query.Statement

/-!
# Log events

What the engine and its storage log. Every event has a level and named fields; an event logged
while a statement runs also carries the number and the shortened text of that statement.
-/

namespace FlatTables
namespace Telemetry

open Query (StatementType)

/-- The level of an event. -/
inductive Level
  | debug
  | info
  | warning
  | error
  | critical
  deriving DecidableEq, Repr

namespace Level

/-- The name of a level in events. -/
def name : Level → String
  | .debug => "debug"
  | .info => "info"
  | .warning => "warning"
  | .error => "error"
  | .critical => "critical"

/-- The weight of a level: an event is logged if it weighs at least as much as the threshold. -/
def weight : Level → Nat
  | .debug => 10
  | .info => 20
  | .warning => 30
  | .error => 40
  | .critical => 50

/-- The threshold with a given name, in any case. -/
def threshold? (name : String) : Option Nat :=
  [("NOTSET", 0), ("DEBUG", 10), ("INFO", 20), ("WARN", 30), ("WARNING", 30), ("ERROR", 40),
   ("FATAL", 50), ("CRITICAL", 50)].lookup (String.ofList (name.toList.map Char.toUpper))

end Level

/-- The value of a field of an event or of an attribute of a span. -/
inductive Datum
  | text (value : String)
  | number (value : Nat)
  | flag (value : Bool)
  | texts (values : List String)
  deriving DecidableEq, Repr

/-- A gateway write. -/
inductive WriteOperation
  | append
  | overwrite
  deriving DecidableEq, Repr

/-- The name of a gateway write. -/
def WriteOperation.name : WriteOperation → String
  | .append => "append"
  | .overwrite => "rewrite"

/-- What a statement counts as: its type, or a text that could not be parsed. -/
inductive StatementLabel
  | unparsed
  | parsed (type : StatementType)
  deriving DecidableEq, Repr

/-- The name of a statement label. -/
def StatementLabel.name : StatementLabel → String
  | .unparsed => "parse"
  | .parsed type => type.name

/-- Something that is logged. -/
inductive Event
  | catalogLoaded (directory : String) (tables : List String)
  | tableFileMissing (table path : String)
  | tableLoaded (table : String) (rows : Nat)
  | rowAppended (table path : String)
  | tableOverwritten (table : String) (rows : Nat)
  | engineStarted (tables : List String)
  | engineStopped
  | rowInserted (table : String) (persisted : Bool)
  | rowsDeleted (table : String) (deleted : Nat) (persisted : Bool)
  | persistenceFailed (operation : WriteOperation) (table error : String)
  | statementExecuted (statement : StatementLabel) (affectedRows : Nat) (persisted : Bool)
  | statementRejected (statement : StatementLabel) (error message : String)
  deriving DecidableEq, Repr

namespace Event

/-- The name of an event. -/
def name : Event → String
  | .catalogLoaded .. => "catalog_loaded"
  | .tableFileMissing .. => "table_file_missing"
  | .tableLoaded .. => "table_loaded"
  | .rowAppended .. => "row_appended"
  | .tableOverwritten .. => "table_rewritten"
  | .engineStarted .. => "engine_started"
  | .engineStopped => "engine_stopped"
  | .rowInserted .. => "row_inserted"
  | .rowsDeleted .. => "rows_deleted"
  | .persistenceFailed .. => "persistence_failed"
  | .statementExecuted .. => "statement_executed"
  | .statementRejected .. => "statement_rejected"

/-- The level of an event. -/
def level : Event → Level
  | .tableLoaded .. | .rowAppended .. | .rowInserted .. | .rowsDeleted ..
  | .statementExecuted .. => .debug
  | .catalogLoaded .. | .tableOverwritten .. | .engineStarted .. | .engineStopped
  | .statementRejected .. => .info
  | .tableFileMissing .. => .warning
  | .persistenceFailed .. => .error

/-- The fields of an event. -/
def fields : Event → List (String × Datum)
  | .catalogLoaded directory tables => [("data_dir", .text directory), ("tables", .texts tables)]
  | .tableFileMissing table path => [("table", .text table), ("path", .text path)]
  | .tableLoaded table rows => [("table", .text table), ("rows", .number rows)]
  | .rowAppended table path => [("table", .text table), ("path", .text path)]
  | .tableOverwritten table rows => [("table", .text table), ("rows", .number rows)]
  | .engineStarted tables => [("tables", .texts tables)]
  | .engineStopped => []
  | .rowInserted table persisted => [("table", .text table), ("persisted", .flag persisted)]
  | .rowsDeleted table deleted persisted =>
      [("table", .text table), ("deleted", .number deleted), ("persisted", .flag persisted)]
  | .persistenceFailed operation table error =>
      [("operation", .text operation.name), ("table", .text table), ("error", .text error)]
  | .statementExecuted statement affectedRows persisted =>
      [("statement", .text statement.name), ("affected_rows", .number affectedRows),
       ("persisted", .flag persisted)]
  | .statementRejected statement error message =>
      [("statement", .text statement.name), ("error", .text error), ("message", .text message)]

end Event

/-- The statement an event belongs to: its number, and its shortened text. -/
structure Context where
  statement : Nat
  sql : String
  deriving DecidableEq, Repr

/-- How many characters of a statement an event shows. -/
def maxLoggedCharacters : Nat := 200

/-- The text of a statement in events: trimmed, and cut if it is long. -/
def loggedText (sql : String) : String :=
  let text := Text.trimChars sql.toList
  if maxLoggedCharacters < text.length then
    String.ofList (text.take maxLoggedCharacters) ++ "..."
  else String.ofList text

/-- An event with the statement it belongs to, if there is one. -/
structure Entry where
  event : Event
  context : Option Context := none
  deriving DecidableEq, Repr

/-- The fields of an entry: name and level, those of the event, and those of the statement. -/
def Entry.fields (entry : Entry) : List (String × Datum) :=
  let context :=
    match entry.context with
    | some context => [("statement_id", .number context.statement), ("sql", .text context.sql)]
    | none => []
  [("event", .text entry.event.name), ("level", .text entry.event.level.name)]
    ++ entry.event.fields ++ context

end Telemetry
end FlatTables
