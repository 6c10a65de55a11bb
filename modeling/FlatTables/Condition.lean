import FlatTables.Literal

/-!
# Conditions

A condition compares one attribute with a literal. Binding it to a schema finds the attribute and
reads the literal; a bound condition then holds of a row or not. Integers support all operators,
texts only equality, and real attributes none at all.
-/

namespace FlatTables

/-- A condition as written: the name of a column, an operator, and a literal with its quotes. -/
structure Condition where
  column : String
  op : ComparisonOp
  literal : String
  deriving DecidableEq, Repr

/-- The text of a condition. -/
def Condition.text (condition : Condition) : String :=
  condition.column ++ " " ++ condition.op.symbol ++ " " ++ condition.literal

/-- A condition whose attribute and literal have been resolved against a schema. -/
structure BoundCondition where
  condition : Condition
  ordinal : Nat
  operand : Value
  deriving DecidableEq, Repr

/-- Why a bound condition neither holds nor fails of a row. -/
inductive MatchFault
  | noSuchOrdinal
  | incomparable (left right : AttributeType)
  deriving DecidableEq, Repr

/-- The wording of a match fault. -/
def MatchFault.message : MatchFault → String
  | .noSuchOrdinal => "tuple index out of range"
  | .incomparable left right =>
      "Cannot compare " ++ left.name ++ "Value with " ++ right.name ++ "Value"

namespace BoundCondition

/-- Whether the condition holds of a row. -/
def holds (bound : BoundCondition) (row : Row) : Except MatchFault Bool :=
  match row[bound.ordinal]? with
  | none => .error .noSuchOrdinal
  | some left =>
      match left, bound.operand with
      | .integer a, .integer b => .ok (bound.condition.op.holdsOf (compare a b))
      | .text a, .text b => .ok (bound.condition.op.holdsOf (compareTexts a b))
      | left, right => .error (.incomparable left.type right.type)

end BoundCondition

namespace Condition

/-- Resolve a condition whose attribute has been found at a position with a type. -/
def bindAt (condition : Condition) (ordinal : Nat) (type : AttributeType) :
    Except Rejection BoundCondition :=
  if type = .real then .error (.unsupportedOperator condition.op type)
  else
    match Literal.coerce type condition.literal with
    | .error rejection => .error rejection
    | .ok operand =>
        if type = .text ∧ condition.op.isEquality = false then
          .error (.unsupportedOperator condition.op type)
        else .ok ⟨condition, ordinal, operand⟩

/-- Resolve a condition against a schema. -/
def bind (condition : Condition) (schema : Schema) : Except Rejection BoundCondition :=
  match schema.indexOf? condition.column, schema.attribute? condition.column with
  | some ordinal, some attr => condition.bindAt ordinal attr.type
  | _, _ => .error (.unknownAttribute condition.column)

end Condition
end FlatTables
