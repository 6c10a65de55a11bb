import FlatTables.Evaluation
import FlatTables.Proofs.Comparison
import FlatTables.Proofs.Condition
import FlatTables.Proofs.Literal.Integer

/-!
# Which conditions are bound, and what they then say

A schema refuses a condition for one of four reasons, the first that applies. A condition that is
not refused compares integers as integers, whatever the spelling of its literal, or asks whether a
text is the text in its literal. The complement of a condition is bound if the condition is, and it
selects the other rows.
-/

namespace FlatTables

open Literal (WritesInteger)

/-- The complementary operator turns what a bound condition says of a row around. -/
theorem BoundCondition.holds_complement
    (bound : BoundCondition)
    (row : Row) :
    holds { bound with
      condition := { bound.condition with op := bound.condition.op.complement } } row =
        (bound.holds row).map not := by
  unfold holds
  cases row[bound.ordinal]? with
  | none => rfl
  | some left =>
      cases left <;> cases bound.operand <;> simp [ComparisonOp.holdsOf_complement, Except.map]

namespace Condition

/-! ## Refused conditions -/

/-- Why a schema refuses a condition: it has no such column, no operator compares real numbers, the
literal is no integer, or texts have no order. -/
inductive RefusedBy (condition : Condition) (schema : Schema) : Rejection → Prop
  | unknown (absent : condition.column ∉ schema.names) :
      RefusedBy condition schema (.unknownAttribute condition.column)
  | real {attr : Attribute} (member : attr ∈ schema.attributes)
      (named : attr.name = condition.column) (isReal : attr.type = .real) :
      RefusedBy condition schema (.unsupportedOperator condition.op .real)
  | noInteger {attr : Attribute} (member : attr ∈ schema.attributes)
      (named : attr.name = condition.column) (isInteger : attr.type = .integer)
      (unwritten : ∀ n, ¬ WritesInteger condition.literal.toList n) :
      RefusedBy condition schema (.invalidLiteral condition.literal .integer none)
  | unordered {attr : Attribute} (member : attr ∈ schema.attributes)
      (named : attr.name = condition.column) (isText : attr.type = .text)
      (notEqual : condition.op ≠ .equal) (notUnequal : condition.op ≠ .notEqual) :
      RefusedBy condition schema (.unsupportedOperator condition.op .text)

section
variable {condition : Condition} {schema : Schema}

theorem bind_of_absent (absent : condition.column ∉ schema.names) :
    condition.bind schema = .error (.unknownAttribute condition.column) := by
  simp [Condition.bind, (schema.indexOf?_eq_none_iff _).2 absent]

/-- A condition on a column of the schema is bound at the position of the column. -/
theorem exists_bindAt
    {attr : Attribute}
    (member : attr ∈ schema.attributes)
    (named : attr.name = condition.column) :
    ∃ position, condition.bind schema = condition.bindAt position attr.type := by
  have found := Schema.attribute?_eq_some member
  obtain ⟨position, index⟩ := Schema.exists_indexOf? (List.mem_map_of_mem member)
  rw [named] at found index
  exact ⟨position, by simp [Condition.bind, index, found]⟩

theorem isEquality_eq_false_iff (op : ComparisonOp) :
    op.isEquality = false ↔ op ≠ .equal ∧ op ≠ .notEqual := by
  cases op <;> simp [ComparisonOp.isEquality]

/-- A refused condition is not bound, for the reason it is refused. -/
theorem RefusedBy.bind_eq
    {rejection : Rejection}
    (refused : condition.RefusedBy schema rejection) :
    condition.bind schema = .error rejection := by
  cases refused with
  | unknown absent => exact bind_of_absent absent
  | real member named isReal =>
      obtain ⟨position, bound⟩ := exists_bindAt member named
      rw [bound, bindAt, isReal, if_pos rfl]
  | noInteger member named isInteger unwritten =>
      obtain ⟨position, bound⟩ := exists_bindAt member named
      have unread : Literal.coerce .integer condition.literal =
          .error (.invalidLiteral condition.literal .integer none) := by
        refine (Literal.coerce_eq_error_iff ..).2 ⟨fun value read => ?_, rfl⟩
        obtain ⟨n, writes, _⟩ := (Literal.coerce_integer_eq_ok_iff ..).1 read
        exact unwritten n writes
      simp [bound, bindAt, isInteger, unread]
  | unordered member named isText notEqual notUnequal =>
      obtain ⟨position, bound⟩ := exists_bindAt member named
      have ordered := (isEquality_eq_false_iff _).2 ⟨notEqual, notUnequal⟩
      simp [bound, bindAt, isText, Literal.coerce_text_eq_ok, ordered]

/-- A condition that is not refused is bound. -/
theorem exists_bind_or_refusedBy (condition : Condition) (schema : Schema) :
    (∃ bound, condition.bind schema = .ok bound) ∨
      ∃ rejection, condition.RefusedBy schema rejection := by
  by_cases present : condition.column ∈ schema.names
  · obtain ⟨attr, member, named⟩ := List.mem_map.1 present
    obtain ⟨position, bindEq⟩ := exists_bindAt member named
    rw [bindEq, bindAt]
    cases type : attr.type with
    | real => exact .inr ⟨_, .real member named type⟩
    | integer =>
        cases read : Literal.coerce .integer condition.literal with
        | ok operand => exact .inl (by simp)
        | error rejection =>
            refine .inr ⟨_, .noInteger member named type fun n writes => ?_⟩
            have written := (Literal.coerce_integer_eq_ok_iff ..).2 ⟨n, writes, rfl⟩
            rw [read] at written
            cases written
    | text =>
        by_cases unordered : condition.op.isEquality = false
        · obtain ⟨notEqual, notUnequal⟩ := (isEquality_eq_false_iff _).1 unordered
          exact .inr ⟨_, .unordered member named type notEqual notUnequal⟩
        · exact .inl (by simp [Literal.coerce_text_eq_ok, unordered])
  · exact .inr ⟨_, .unknown present⟩

/-- A condition is not bound for exactly the reason it is refused. -/
theorem bind_eq_error_iff
    (condition : Condition)
    (schema : Schema)
    (rejection : Rejection) :
    condition.bind schema = .error rejection ↔ condition.RefusedBy schema rejection := by
  refine ⟨fun unbound => ?_, RefusedBy.bind_eq⟩
  rcases exists_bind_or_refusedBy condition schema with ⟨bound, binds⟩ | ⟨own, refused⟩
  · rw [unbound] at binds
    cases binds
  · obtain rfl := Except.error.inj (unbound.symm.trans refused.bind_eq)
    exact refused

end

/-! ## Met conditions -/

/-- What a row has to hold for a condition to be met: an integer to which the operator relates the
integer of the literal, or a text that is the text of the literal, or is not. -/
inductive Met (condition : Condition) (schema : Schema) (row : Row) : Prop
  | integers {a b : Int}
      (value : row.valueOf? schema condition.column = some (.integer a))
      (writes : WritesInteger condition.literal.toList b)
      (relates : condition.op.Relates a b) :
      Met condition schema row
  | sameText
      (value : row.valueOf? schema condition.column =
        some (.text (Literal.stripQuotes condition.literal)))
      (op : condition.op = .equal) :
      Met condition schema row
  | otherText {s : String}
      (value : row.valueOf? schema condition.column = some (.text s))
      (differs : s ≠ Literal.stripQuotes condition.literal)
      (op : condition.op = .notEqual) :
      Met condition schema row

/-- A schema allows only equality between texts. -/
theorem op_of_bind_text
    {condition : Condition}
    {schema : Schema}
    {bound : BoundCondition}
    (binds : condition.bind schema = .ok bound)
    {attr : Attribute}
    (named : schema.attribute? condition.column = some attr)
    (isText : attr.type = .text) :
    condition.op = .equal ∨ condition.op = .notEqual := by
  by_contra ordered
  obtain ⟨notEqual, notUnequal⟩ := not_or.1 ordered
  have refused : condition.RefusedBy schema (.unsupportedOperator condition.op .text) :=
    .unordered (List.mem_of_find?_eq_some named) (Schema.name_of_attribute? named) isText notEqual
      notUnequal
  rw [refused.bind_eq] at binds
  cases binds

section
variable
  {condition : Condition}
  {schema : Schema}
  {bound : BoundCondition}
  (binds : condition.bind schema = .ok bound)
include binds

/-- A bound condition is met by a row as its operator says of the value and the literal. -/
theorem isMetBy_iff_met
    {row : Row}
    (conforms : row.Conforms schema) :
    condition.isMetBy schema row = true ↔ condition.Met schema row := by
  obtain ⟨attr, index, named, notReal, read, _⟩ := bind_eq_ok binds
  obtain ⟨own, value, ownNamed, _, byName, valueType⟩ := conforms.value_at index
  obtain rfl := Option.some.inj (named.symm.trans ownNamed)
  simp only [isMetBy, named, byName, read]
  cases value with
  | real x => exact absurd valueType.symm notReal
  | integer a =>
      obtain ⟨b, writes, operand⟩ := (Literal.coerce_integer_eq_ok_iff ..).1 (valueType ▸ read)
      rw [operand]
      simp only [ComparisonOp.accepts, ComparisonOp.apply, Value.relation, ComparisonOp.holds,
        ComparisonOp.holdsOf_compare, decide_eq_true_eq]
      constructor
      · exact fun relates => .integers byName writes relates
      · rintro (⟨value, otherWrites, relates⟩ | ⟨value, _⟩ | ⟨value, _, _⟩)
        · cases byName.symm.trans value
          rwa [writes.unique otherWrites]
        · cases byName.symm.trans value
        · cases byName.symm.trans value
  | text s =>
      rw [← valueType, Value.type, Literal.coerce_text_eq_ok] at read
      rw [← Except.ok.inj read]
      simp only [ComparisonOp.accepts, ComparisonOp.apply, Value.relation, ComparisonOp.holds]
      rcases op_of_bind_text binds named valueType.symm with op | op
      · rw [op, ComparisonOp.holdsOf, compareTexts_isEq, decide_eq_true_eq]
        constructor
        · rintro rfl
          exact .sameText byName op
        · rintro (⟨value, _, _⟩ | ⟨value, _⟩ | ⟨_, _, other⟩)
          · cases byName.symm.trans value
          · cases byName.symm.trans value
            rfl
          · cases op.symm.trans other
      · rw [op, ComparisonOp.holdsOf, ← Ordering.not_isEq_eq_isNe, compareTexts_isEq, ← decide_not,
          decide_eq_true_eq]
        constructor
        · exact fun differs => .otherText byName differs op
        · rintro (⟨value, _, _⟩ | ⟨_, other⟩ | ⟨value, differs, _⟩)
          · cases byName.symm.trans value
          · cases op.symm.trans other
          · cases byName.symm.trans value
            exact differs

/-! ## Complements -/

/-- The condition with the complementary operator. -/
def complement (condition : Condition) : Condition :=
  { condition with op := condition.op.complement }

/-- A condition is bound if its complement is, in the same way. -/
theorem bind_complement :
    condition.complement.bind schema = .ok { bound with condition := condition.complement } := by
  unfold Condition.bind at binds ⊢
  simp only [complement]
  split at binds
  · simp only [bindAt] at binds ⊢
    rw [ComparisonOp.isEquality_complement]
    split at binds
    · cases binds
    · rename_i notReal
      rw [if_neg notReal]
      split at binds
      · cases binds
      · split at binds
        · cases binds
        · rename_i ordered
          rw [if_neg ordered]
          cases binds
          rfl
  · cases binds

/-- A row meets the complement of a condition if it does not meet the condition. -/
theorem isMetBy_complement
    {row : Row}
    (conforms : row.Conforms schema) :
    condition.complement.isMetBy schema row = !condition.isMetBy schema row := by
  obtain ⟨_, _, _, _, _, same⟩ := bind_eq_ok binds
  have holds := holds_eq_isMetBy binds conforms
  have complementHolds := holds_eq_isMetBy (bind_complement binds) conforms
  have opposite := BoundCondition.holds_complement bound row
  rw [same] at opposite
  change BoundCondition.holds { bound with condition := condition.complement } row = _ at opposite
  rw [complementHolds, holds] at opposite
  exact Except.ok.inj opposite

end

/-! ## Integer attributes -/

theorem evaluate_of_bind
    {condition : Condition}
    {schema : Schema}
    {bound : BoundCondition}
    (binds : condition.bind schema = .ok bound)
    (row : Row) :
    condition.evaluate row schema = (bound.holds row).mapError .matching := by
  rw [evaluate, binds]
  rfl

theorem RefusedBy.evaluate_eq
    {condition : Condition}
    {schema : Schema}
    {rejection : Rejection}
    (refused : condition.RefusedBy schema rejection)
    (row : Row) :
    condition.evaluate row schema = .error (.rejected rejection) := by
  rw [evaluate, refused.bind_eq]
  rfl

/-- On an integer attribute a condition whose literal stands for an integer says of a row what its
operator says of the two integers. With any other literal it is rejected, whatever the row. -/
theorem evaluate_integer_attribute
    {schema : Schema}
    {position : Nat}
    {attr : Attribute}
    (there : schema.attributes[position]? = some attr)
    (isInteger : attr.type = .integer)
    (op : ComparisonOp)
    (literal : String) :
    (∀ b, WritesInteger literal.toList b →
        ∀ (row : Row) a, row[position]? = some (.integer a) →
          evaluate ⟨attr.name, op, literal⟩ row schema = .ok (decide (op.Relates a b))) ∧
      ((∀ b, ¬ WritesInteger literal.toList b) →
        ∀ row, evaluate ⟨attr.name, op, literal⟩ row schema =
          .error (.rejected (.invalidLiteral literal .integer none))) := by
  have index := Schema.indexOf?_of_getElem? there
  have member := List.mem_of_getElem? there
  have named := Schema.attribute?_eq_some member
  constructor
  · intro b writes row a held
    have read := (Literal.coerce_integer_eq_ok_iff ..).2 ⟨b, writes, rfl⟩
    have binds : Condition.bind ⟨attr.name, op, literal⟩ schema =
        .ok ⟨⟨attr.name, op, literal⟩, position, .integer b⟩ := by
      simp [Condition.bind, index, named, bindAt, isInteger, read]
    rw [evaluate_of_bind binds, BoundCondition.holds, held, ← ComparisonOp.holdsOf_compare]
    rfl
  · intro unwritten row
    exact (RefusedBy.noInteger member rfl isInteger unwritten).evaluate_eq row

/-- Digits of another script, zeros in front, and blanks on both sides of the quotes still stand for
an integer; a blank between the digits does not. -/
theorem evaluate_arabic_digits :
    let schema : Schema := ⟨[⟨"label", .text⟩, ⟨"level", .integer⟩], by decide⟩
    evaluate ⟨"level", .less, " ' -٠٤٢\t'"⟩ [.text "low", .integer (-43)] schema = .ok true ∧
      evaluate ⟨"level", .less, "'4 2'"⟩ [.text "high", .integer 43] schema =
        .error (.rejected (.invalidLiteral "'4 2'" .integer none)) := by
  intro schema
  have writes : WritesInteger " ' -٠٤٢\t'".toList (-42) :=
    Literal.writesInteger_of_readInteger? (by decide +kernel)
  have unread : Literal.coerce .integer "'4 2'" =
      .error (.invalidLiteral "'4 2'" .integer none) := by
    decide +kernel
  have unwritten : ∀ b, ¬ WritesInteger "'4 2'".toList b := by
    intro b own
    rw [(Literal.coerce_integer_eq_ok_iff ..).2 ⟨b, own, rfl⟩] at unread
    cases unread
  have there : schema.attributes[1]? = some ⟨"level", .integer⟩ := rfl
  exact ⟨(evaluate_integer_attribute there rfl .less _).1 (-42) writes _ (-43) rfl,
    (evaluate_integer_attribute there rfl .less _).2 unwritten _⟩

end Condition
end FlatTables
