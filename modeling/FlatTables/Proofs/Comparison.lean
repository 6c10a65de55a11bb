import FlatTables.Comparison

/-!
# What operators mean

Between integers an operator says what its symbol says in arithmetic, and two texts are equal if they
have the same code points. The complement of an operator holds exactly where the operator does not,
and it is an equality if the operator is one.
-/

namespace FlatTables
namespace ComparisonOp

/-- What an operator says of two integers. -/
def Relates : ComparisonOp → Int → Int → Prop
  | .equal, a, b => a = b
  | .notEqual, a, b => a ≠ b
  | .less, a, b => a < b
  | .greater, a, b => a > b
  | .atMost, a, b => a ≤ b
  | .atLeast, a, b => a ≥ b

instance (op : ComparisonOp) (a b : Int) : Decidable (op.Relates a b) :=
  match op with
  | .equal => inferInstanceAs (Decidable (a = b))
  | .notEqual => inferInstanceAs (Decidable (a ≠ b))
  | .less => inferInstanceAs (Decidable (a < b))
  | .greater => inferInstanceAs (Decidable (a > b))
  | .atMost => inferInstanceAs (Decidable (a ≤ b))
  | .atLeast => inferInstanceAs (Decidable (a ≥ b))

/-- The order of two integers decides what an operator says of them. -/
theorem holdsOf_compare
    (op : ComparisonOp)
    (a b : Int) :
    op.holdsOf (compare a b) = decide (op.Relates a b) := by
  rw [Bool.eq_iff_iff, decide_eq_true_iff]
  rcases Int.lt_trichotomy a b with less | rfl | greater
  · rw [Int.compare_eq_lt.2 less]
    cases op <;> simp [holdsOf, Relates] <;> omega
  · rw [Int.compare_eq_eq.2 rfl]
    cases op <;> simp [holdsOf, Relates]
  · rw [Int.compare_eq_gt.2 greater]
    cases op <;> simp [holdsOf, Relates] <;> omega

/-- Of every order, either an operator holds or its complement. -/
theorem holdsOf_complement
    (op : ComparisonOp)
    (order : Ordering) :
    op.complement.holdsOf order = !op.holdsOf order := by
  cases op <;> cases order <;> rfl

@[simp] theorem isEquality_complement (op : ComparisonOp) :
    op.complement.isEquality = op.isEquality := by
  cases op <;> rfl

end ComparisonOp

/-- Two texts compare as equal exactly if they have the same code points. -/
theorem compareTexts_isEq
    (left right : String) :
    (compareTexts left right).isEq = decide (left = right) := by
  unfold compareTexts compareOfLessAndEq
  by_cases less : left < right
  · have differs : left ≠ right := by
      rintro rfl
      exact String.lt_irrefl left less
    simp [less, differs]
  · by_cases same : left = right <;> simp [less, same]

end FlatTables
