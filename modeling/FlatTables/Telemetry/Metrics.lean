import FlatTables.Telemetry.Event

/-!
# Metrics

The engine reports observations; metrics are counts and sums over all observations made so far.
A labelled sample exists once there is an observation with its labels.
-/

namespace FlatTables
namespace Telemetry

open Query (StatementType)

/-- Something that is counted. -/
inductive Observation
  | statement (label : StatementLabel) (success : Bool)
  | rowsAffected (type : StatementType) (rows : Nat)
  | writeFailure (operation : WriteOperation)
  | tablesLoaded (tables : Nat)
  deriving DecidableEq, Repr

/-- A sample: its name, its labels in the order of their names, and its value. -/
structure Sample where
  name : String
  labels : List (String × String)
  value : Nat
  deriving DecidableEq, Repr

namespace Metrics

/-- How many statements with a label succeeded or failed. -/
def statements (observations : List Observation) (label : StatementLabel) (success : Bool) : Nat :=
  observations.countP (· == .statement label success)

/-- How many rows statements of a type have returned or changed. -/
def rowsAffected (observations : List Observation) (type : StatementType) : Nat :=
  (observations.map fun
    | .rowsAffected other rows => if other = type then rows else 0
    | _ => 0).foldr (· + ·) 0

/-- How many writes of a kind have failed. -/
def writeFailures (observations : List Observation) (operation : WriteOperation) : Nat :=
  observations.countP (· == .writeFailure operation)

/-- How many tables are loaded now. -/
def tablesLoaded (observations : List Observation) : Nat :=
  (observations.reverse.findSome? fun
    | .tablesLoaded tables => some tables
    | _ => none).getD 0

/-- Statement types in the order of their names. -/
def types : List StatementType :=
  [.delete, .insert, .select]

/-- Statement labels in the order of their names. -/
def labels : List StatementLabel :=
  [.parsed .delete, .parsed .insert, .unparsed, .parsed .select]

/-- The word for success or failure. -/
def statusName (success : Bool) : String :=
  if success then "success" else "error"

/-- A sample that exists if its value is not zero. -/
def counted (name : String) (labels : List (String × String)) (value : Nat) : List Sample :=
  if value = 0 then [] else [⟨name, labels, value⟩]

/-- All samples, in the order of their names and labels. -/
def samples (observations : List Observation) : List Sample :=
  [⟨"query_engine_info", [], 1⟩]
    ++ [WriteOperation.append, .overwrite].flatMap (fun operation =>
      counted "query_persistence_failures_total" [("operation", operation.name)]
        (writeFailures observations operation))
    ++ types.flatMap (fun type =>
      counted "query_rows_affected_total" [("statement", type.name)]
        (rowsAffected observations type))
    ++ labels.flatMap (fun label =>
      counted "query_statement_latency_seconds_count" [("statement", label.name)]
        (statements observations label true + statements observations label false))
    ++ labels.flatMap (fun label => [false, true].flatMap fun success =>
      counted "query_statements_total"
        [("statement", label.name), ("status", statusName success)]
        (statements observations label success))
    ++ [⟨"query_tables_loaded", [], tablesLoaded observations⟩]

end Metrics
end Telemetry
end FlatTables
