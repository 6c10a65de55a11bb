import FlatTables.Condition
import FlatTables.Proofs.Literal

/-!
# What conditions mean

A row meets a condition if the operator holds between the row's value under the named attribute
and the value the literal is read as. This reading looks values up by name; a bound condition
finds them by position, and on conforming rows the two agree.
-/

namespace FlatTables

/-- The operator holds between two values. -/
def ComparisonOp.accepts (op : ComparisonOp) (left right : Value) : Bool :=
  match op.apply left right with
  | .ok met => met
  | .error _ => false

namespace Condition

/-- The row meets the condition: the operator holds between its value under the named attribute
and the literal, read as a value of the attribute's type. -/
def isMetBy (condition : Condition) (schema : Schema) (row : Row) : Bool :=
  match schema.attribute? condition.column, row.valueOf? schema condition.column with
  | some attr, some value =>
      match Literal.coerce attr.type condition.literal with
      | .ok operand => condition.op.accepts value operand
      | .error _ => false
  | _, _ => false

/-- A bound condition compares the value at a position with the literal it has read; the attribute
is no real one. -/
theorem bind_eq_ok
    {condition : Condition}
    {schema : Schema}
    {bound : BoundCondition}
    (binds : condition.bind schema = .ok bound) :
    ∃ attr, schema.indexOf? condition.column = some bound.ordinal ∧
      schema.attribute? condition.column = some attr ∧ attr.type ≠ .real ∧
      Literal.coerce attr.type condition.literal = .ok bound.operand ∧
      bound.condition = condition := by
  unfold Condition.bind at binds
  cases index : schema.indexOf? condition.column with
  | none => simp [index] at binds
  | some ordinal =>
      cases named : schema.attribute? condition.column with
      | none => simp [index, named] at binds
      | some attr =>
          simp only [index, named, bindAt] at binds
          by_cases real : attr.type = .real
          · simp [real] at binds
          · rw [if_neg real] at binds
            cases read : Literal.coerce attr.type condition.literal with
            | error rejection => simp [read] at binds
            | ok operand =>
                simp only [read] at binds
                by_cases unordered : attr.type = .text ∧ condition.op.isEquality = false
                · simp [unordered] at binds
                · rw [if_neg unordered] at binds
                  cases binds
                  exact ⟨attr, rfl, rfl, real, read, rfl⟩

/-- A bound condition never fails on a conforming row, and holds exactly if the row meets the
condition as written. -/
theorem holds_eq_isMetBy
    {condition : Condition}
    {schema : Schema}
    {bound : BoundCondition}
    (binds : condition.bind schema = .ok bound)
    {row : Row}
    (conforms : row.Conforms schema) :
    bound.holds row = .ok (condition.isMetBy schema row) := by
  obtain ⟨attr, index, named, notReal, read, same⟩ := bind_eq_ok binds
  obtain ⟨attr', value, named', atOrdinal, byName, valueType⟩ := conforms.value_at index
  obtain rfl : attr = attr' := Option.some.inj (named ▸ named')
  have operandType := Literal.coerce_type read
  simp only [BoundCondition.holds, isMetBy, atOrdinal, named, byName, read, same]
  -- Both values have the attribute's type, which is integer or text.
  cases value with
  | real x => exact absurd valueType.symm notReal
  | integer a =>
      cases operand : bound.operand with
      | integer b => simp [ComparisonOp.accepts, ComparisonOp.apply, Value.relation,
          ComparisonOp.holds]
      | text b => simp [operand, ← valueType, Value.type] at operandType
      | real b => simp [operand, ← valueType, Value.type] at operandType
  | text a =>
      cases operand : bound.operand with
      | integer b => simp [operand, ← valueType, Value.type] at operandType
      | text b => simp [ComparisonOp.accepts, ComparisonOp.apply, Value.relation,
          ComparisonOp.holds]
      | real b => simp [operand, ← valueType, Value.type] at operandType

end Condition
end FlatTables
