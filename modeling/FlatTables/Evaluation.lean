import FlatTables.Fault

/-!
# Evaluating conditions

A condition can be evaluated on a single row. It is bound to the schema first, so a condition that
cannot be bound is rejected whatever the row holds.
-/

namespace FlatTables

/-- Whether a condition holds of a row under a schema. -/
def Condition.evaluate (condition : Condition) (row : Row) (schema : Schema) :
    Except Fault Bool := do
  let bound ← (condition.bind schema).mapError Fault.rejected
  (bound.holds row).mapError Fault.matching

end FlatTables
