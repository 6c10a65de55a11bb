import FlatTables.Query.Statement
import FlatTables.Table

/-!
# Outcomes

What statements come to. An accepted statement has returned a table, added one row, or deleted
rows, and a change says whether it also reached the storage. A rejected statement has returned
and changed nothing.
-/

namespace FlatTables
namespace Engine

open Query (StatementType)

/-- What an accepted statement has done; a change whose write has failed holds the message of
that failure. -/
inductive Outcome
  | selected (result : Table)
  | inserted (table : String) (writeFailure : Option String)
  | deleted (table : String) (rows : Nat) (writeFailure : Option String)
  deriving DecidableEq, Repr

namespace Outcome

/-- The type of statement that has such an outcome. -/
def type : Outcome → StatementType
  | .selected _ => .select
  | .inserted .. => .insert
  | .deleted .. => .delete

/-- The table that was returned. -/
def table? : Outcome → Option Table
  | .selected result => some result
  | _ => none

/-- How many rows were returned or changed. -/
def affectedRows : Outcome → Nat
  | .selected result => result.size
  | .inserted .. => 1
  | .deleted _ rows _ => rows

/-- The failure of the write that belongs to a change. -/
def writeFailure? : Outcome → Option String
  | .selected _ => none
  | .inserted _ writeFailure | .deleted _ _ writeFailure => writeFailure

/-- Nothing is left to be written. -/
def persisted (outcome : Outcome) : Bool :=
  outcome.writeFailure?.isNone

/-- A number of rows in words. -/
def rowCount (rows : Nat) : String :=
  toString rows ++ if rows = 1 then " row" else " rows"

/-- The remark on a write that has failed. -/
def note : Option String → String
  | some failure => " (not persisted: " ++ failure ++ ")"
  | none => ""

/-- The line that reports an outcome. -/
def message : Outcome → String
  | .selected result => "OK: " ++ rowCount result.size ++ " selected"
  | .inserted table writeFailure =>
      "OK: " ++ rowCount 1 ++ " inserted into " ++ table ++ note writeFailure
  | .deleted table rows writeFailure =>
      "OK: " ++ rowCount rows ++ " deleted from " ++ table ++ note writeFailure

end Outcome

/-- The answer to a statement text: the outcome, or why it was rejected. A text that could not be
read has no statement type. -/
inductive Reply
  | accepted (outcome : Outcome)
  | rejected (type : Option StatementType) (rejection : Rejection)
  deriving DecidableEq, Repr

namespace Reply

/-- Why the statement was rejected. -/
def rejection? : Reply → Option Rejection
  | .accepted _ => none
  | .rejected _ rejection => some rejection

/-- The statement was accepted. -/
def success (reply : Reply) : Bool :=
  reply.rejection?.isNone

/-- The type of the statement, if it could be read. -/
def type? : Reply → Option StatementType
  | .accepted outcome => some outcome.type
  | .rejected type _ => type

/-- The table that was returned. -/
def table? : Reply → Option Table
  | .accepted outcome => outcome.table?
  | .rejected .. => none

/-- The column names of the returned table. -/
def columns (reply : Reply) : List String :=
  (reply.table?.map fun table => table.schema.names).getD []

/-- The rows of the returned table. -/
def rows (reply : Reply) : List Row :=
  (reply.table?.map Table.rows).getD []

/-- How many rows were returned or changed. -/
def affectedRows : Reply → Nat
  | .accepted outcome => outcome.affectedRows
  | .rejected .. => 0

/-- The statement was accepted and nothing is left to be written. -/
def persisted : Reply → Bool
  | .accepted outcome => outcome.persisted
  | .rejected .. => false

/-- The line that reports an outcome, or the message of a rejection. -/
def message : Reply → String
  | .accepted outcome => outcome.message
  | .rejected _ rejection => rejection.message

end Reply
end Engine
end FlatTables
