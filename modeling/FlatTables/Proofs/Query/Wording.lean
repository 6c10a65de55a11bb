import FlatTables.Proofs.Query.Acceptance

/-!
# What parsing depends on

The positions of tokens and the text they were cut from are only quoted when a statement is
rejected. Lists of tokens with the same forms are read as the same statement, or rejected for causes
of one kind.
-/

namespace FlatTables
namespace Query

/-! ## Results up to wording -/

/-- Two results are related values, or rejections of one kind. -/
inductive Alike (related : α → β → Prop) : Except Rejection α → Except Rejection β → Prop
  | ok {left : α} {right : β} (values : related left right) :
      Alike related (.ok left) (.ok right)
  | error {left right : Rejection} (sameKind : left.kind = right.kind) :
      Alike related (.error left) (.error right)

/-- Steps that go on alike from related values are alike. -/
theorem Alike.bind
    {related : α → β → Prop}
    {others : γ → δ → Prop}
    {left : Except Rejection α}
    {right : Except Rejection β}
    (alike : Alike related left right)
    {leftNext : α → Except Rejection γ}
    {rightNext : β → Except Rejection δ}
    (next : ∀ own other, related own other → Alike others (leftNext own) (rightNext other)) :
    Alike others (left >>= leftNext) (right >>= rightNext) := by
  cases alike with
  | ok values => exact next _ _ values
  | error sameKind => exact .error sameKind

theorem Alike.map
    {related : α → β → Prop}
    {others : γ → δ → Prop}
    {left : Except Rejection α}
    {right : Except Rejection β}
    (alike : Alike related left right)
    {leftChange : α → γ}
    {rightChange : β → δ}
    (changed : ∀ own other, related own other → others (leftChange own) (rightChange other)) :
    Alike others (left.map leftChange) (right.map rightChange) := by
  cases alike with
  | ok values => exact .ok (changed _ _ values)
  | error sameKind => exact .error sameKind

/-! ## Tokens up to positions -/

/-- Two lists of tokens have the same forms, wherever the tokens stand. -/
inductive SameForms : List Token → List Token → Prop
  | nil : SameForms [] []
  | cons {form : TokenForm} {position other : Nat} {left right : List Token}
      (rest : SameForms left right) :
      SameForms (⟨form, position⟩ :: left) (⟨form, other⟩ :: right)

namespace SameForms

variable
  {left right : List Token}
  (same : SameForms left right)
  (holds : Token → Bool)
  (onForms : ∀ form position other, holds ⟨form, position⟩ = holds ⟨form, other⟩)
include same onForms

theorem takeWhile : SameForms (left.takeWhile holds) (right.takeWhile holds) := by
  induction same with
  | nil => exact .nil
  | @cons form position other _ _ rest inductionHypothesis =>
      rw [List.takeWhile_cons, List.takeWhile_cons, onForms form position other]
      split
      · exact .cons inductionHypothesis
      · exact .nil

theorem dropWhile : SameForms (left.dropWhile holds) (right.dropWhile holds) := by
  induction same with
  | nil => exact .nil
  | @cons form position other _ _ rest inductionHypothesis =>
      rw [List.dropWhile_cons, List.dropWhile_cons, onForms form position other]
      split
      · exact inductionHypothesis
      · exact .cons rest

theorem filter : SameForms (left.filter holds) (right.filter holds) := by
  induction same with
  | nil => exact .nil
  | @cons form position other _ _ rest inductionHypothesis =>
      rw [List.filter_cons, List.filter_cons, onForms form position other]
      split
      · exact .cons inductionHypothesis
      · exact inductionHypothesis

end SameForms

/-! ## Readers -/

namespace Parser

/-- The same was read, and tokens with the same forms are left. -/
def SameRead (left right : Read α) : Prop :=
  left.1 = right.1 ∧ SameForms left.2 right.2

section
variable
  {source other : List Char}
  {left right : List Token}
  (same : SameForms left right)
include same

theorem expect_alike
    (form : TokenForm)
    (what : Expectation) :
    Alike SameForms (expect source form what left) (expect other form what right) := by
  cases same with
  | nil => exact .error rfl
  | cons rest =>
      simp only [expect]
      split
      · exact .ok rest
      · exact .error rfl

theorem name_alike (what : Expectation) :
    Alike SameRead (name source what left) (name other what right) := by
  cases same with
  | nil => exact .error rfl
  | @cons form _ _ _ _ rest =>
      cases form with
      | name own => exact .ok ⟨rfl, rest⟩
      | _ => exact .error rfl

theorem moreNames_alike : Alike SameRead (moreNames source left) (moreNames other right) := by
  fun_induction moreNames source left generalizing right with
  | case1 comma own position behind inductionHypothesis =>
      cases same with
      | cons rest =>
          cases rest with
          | cons rest =>
              rw [moreNames]
              exact (inductionHypothesis rest).map fun _ _ read =>
                ⟨congrArg (own :: ·) read.1, read.2⟩
  | case2 comma behind noName =>
      cases same with
      | cons rest =>
          cases rest with
          | nil => exact .error rfl
          | @cons form _ _ _ _ rest =>
              cases form with
              | name own => exact absurd rfl (noName own _ _)
              | _ => exact .error rfl
  | case3 tokens noNames noComma =>
      cases same with
      | nil => exact .ok ⟨rfl, .nil⟩
      | @cons form _ _ _ _ rest =>
          cases form with
          | comma => exact absurd rfl (noComma _ _)
          | _ => exact .ok ⟨rfl, .cons rest⟩

theorem names_alike : Alike SameRead (names source left) (names other right) := by
  refine (name_alike same .attributeName).bind fun own first read => ?_
  refine (moreNames_alike read.2).bind fun others rest readOthers => ?_
  exact .ok ⟨by rw [read.1, readOthers.1], readOthers.2⟩

theorem literal_alike : Alike SameRead (literal source left) (literal other right) := by
  cases same with
  | nil => exact .error rfl
  | cons rest =>
      simp only [literal]
      split
      · exact .ok ⟨rfl, rest⟩
      · exact .error rfl

theorem moreLiterals_alike :
    Alike SameRead (moreLiterals source left) (moreLiterals other right) := by
  fun_induction moreLiterals source left generalizing right with
  | case1 comma token behind own isLiteral inductionHypothesis =>
      cases same with
      | cons rest =>
          cases rest with
          | cons rest =>
              simp only [moreLiterals, isLiteral]
              exact (inductionHypothesis rest).map fun _ _ read =>
                ⟨congrArg (own :: ·) read.1, read.2⟩
  | case2 comma token behind noLiteral =>
      cases same with
      | cons rest =>
          cases rest with
          | cons rest =>
              simp only [moreLiterals, noLiteral]
              exact .error rfl
  | case3 comma =>
      cases same with
      | cons rest =>
          cases rest
          exact .error rfl
  | case4 tokens noLiterals noComma =>
      cases same with
      | nil => exact .ok ⟨rfl, .nil⟩
      | @cons form _ _ _ _ rest =>
          cases form with
          | comma =>
              cases rest with
              | nil => exact absurd rfl (noComma _)
              | cons rest => exact absurd rfl (noLiterals _ _ _)
          | _ => exact .ok ⟨rfl, .cons rest⟩

theorem literals_alike : Alike SameRead (literals source left) (literals other right) := by
  refine (literal_alike same).bind fun own first read => ?_
  refine (moreLiterals_alike read.2).bind fun others rest readOthers => ?_
  exact .ok ⟨by rw [read.1, readOthers.1], readOthers.2⟩

/-- What condition tokens make up, and what is wrong with them, depends on their forms. -/
theorem conditionOf_eq : conditionOf left = conditionOf right := by
  have operators := same.filter isOperator fun _ _ _ => rfl
  have before := same.takeWhile (!isOperator ·) fun _ _ _ => rfl
  have behind := same.dropWhile (!isOperator ·) fun _ _ _ => rfl
  cases same with
  | nil => rfl
  | cons rest =>
      unfold conditionOf
      rw [if_neg (List.cons_ne_nil _ _), if_neg (List.cons_ne_nil _ _)]
      -- Only the operators and the tokens on both sides of the first one matter.
      generalize List.filter isOperator (_ :: _) = leftOperators at operators ⊢
      generalize List.filter isOperator (_ :: _) = rightOperators at operators ⊢
      generalize List.takeWhile (!isOperator ·) (_ :: _) = leftBefore at before ⊢
      generalize List.takeWhile (!isOperator ·) (_ :: _) = rightBefore at before ⊢
      generalize List.dropWhile (!isOperator ·) (_ :: _) = leftBehind at behind ⊢
      generalize List.dropWhile (!isOperator ·) (_ :: _) = rightBehind at behind ⊢
      cases operators with
      | nil => rfl
      | cons others =>
          cases others with
          | cons _ => rfl
          | nil =>
              cases before with
              | nil => rfl
              | @cons column _ _ _ _ before =>
                  cases before with
                  | cons _ => cases column <;> rfl
                  | nil =>
                      cases behind with
                      | nil => cases column <;> rfl
                      | @cons operator _ _ _ _ behind =>
                          cases behind with
                          | nil => cases column <;> cases operator <;> rfl
                          | cons behind =>
                              cases behind <;> cases column <;> cases operator <;> rfl

theorem condition_alike : Alike SameRead (condition source left) (condition other right) := by
  have inside := same.takeWhile (!endsCondition ·) fun _ _ _ => rfl
  have behind := same.dropWhile (!endsCondition ·) fun _ _ _ => rfl
  unfold condition
  rw [conditionOf_eq inside]
  cases conditionOf (right.takeWhile (!endsCondition ·)) with
  | ok own => exact .ok ⟨rfl, behind⟩
  | error fault => exact .error rfl

theorem optionalCondition_alike :
    Alike SameRead (optionalCondition source left) (optionalCondition other right) := by
  cases same with
  | nil => exact .ok ⟨rfl, .nil⟩
  | @cons form _ _ _ _ rest =>
      cases form with
      | keyword word =>
          cases word with
          | «where» =>
              exact (condition_alike rest).map fun _ _ read => ⟨congrArg some read.1, read.2⟩
          | _ => exact .ok ⟨rfl, .cons rest⟩
      | _ => exact .ok ⟨rfl, .cons rest⟩

theorem columns_alike : Alike SameRead (columns source left) (columns other right) := by
  have listed : Alike SameRead
      ((names source left).map fun read => (Columns.listed read.1, read.2))
      ((names other right).map fun read => (Columns.listed read.1, read.2)) :=
    (names_alike same).map fun _ _ read => ⟨congrArg Columns.listed read.1, read.2⟩
  cases same with
  | nil => exact listed
  | @cons form _ _ _ _ rest =>
      cases form with
      | star => exact .ok ⟨rfl, rest⟩
      | _ => exact listed

/-! ## Statements -/

theorem select_alike : Alike SameRead (select source left) (select other right) := by
  refine (columns_alike same).bind fun columns first readColumns => ?_
  refine (expect_alike readColumns.2 _ _).bind fun _ _ behindFrom => ?_
  refine (name_alike behindFrom _).bind fun table second readTable => ?_
  refine (optionalCondition_alike readTable.2).bind fun condition third readWhere => ?_
  exact .ok ⟨by rw [readColumns.1, readTable.1, readWhere.1], readWhere.2⟩

theorem insert_alike : Alike SameRead (insert source left) (insert other right) := by
  refine (expect_alike same _ _).bind fun _ _ behindInto => ?_
  refine (name_alike behindInto _).bind fun table first readTable => ?_
  refine (expect_alike readTable.2 _ _).bind fun _ _ behindOpen => ?_
  refine (names_alike behindOpen).bind fun attributes second readNames => ?_
  refine (expect_alike readNames.2 _ _).bind fun _ _ behindClose => ?_
  refine (expect_alike behindClose _ _).bind fun _ _ behindValues => ?_
  refine (expect_alike behindValues _ _).bind fun _ _ behindOpen => ?_
  refine (literals_alike behindOpen).bind fun literals third readLiterals => ?_
  refine (expect_alike readLiterals.2 _ _).bind fun _ _ behindClose => ?_
  exact .ok ⟨by rw [readTable.1, readNames.1, readLiterals.1], behindClose⟩

theorem delete_alike : Alike SameRead (delete source left) (delete other right) := by
  refine (expect_alike same _ _).bind fun _ _ behindFrom => ?_
  refine (name_alike behindFrom _).bind fun table first readTable => ?_
  refine (optionalCondition_alike readTable.2).bind fun condition second readWhere => ?_
  exact .ok ⟨by rw [readTable.1, readWhere.1], readWhere.2⟩

theorem statement_alike : Alike SameRead (statement source left) (statement other right) := by
  cases same with
  | nil => exact .error rfl
  | @cons form _ _ _ _ rest =>
      cases form with
      | keyword word =>
          cases word with
          | select => exact select_alike rest
          | insert => exact insert_alike rest
          | delete => exact delete_alike rest
          | _ => exact .error rfl
      | _ => exact .error rfl

theorem skipSemicolon_sameForms : SameForms (skipSemicolon left) (skipSemicolon right) := by
  cases same with
  | nil => exact .nil
  | @cons form _ _ _ _ rest =>
      cases form with
      | semicolon => exact rest
      | _ => exact .cons rest

theorem headToken_form : (headToken source left).form = (headToken other right).form := by
  cases same <;> rfl

/-- Tokens with the same forms are read as the same statement, or rejected for causes of one
kind. -/
theorem ofTokens_alike : Alike Eq (ofTokens source left) (ofTokens other right) := by
  refine (statement_alike same).bind fun own first read => ?_
  have last : (headToken source (skipSemicolon own.2)).form =
      (headToken other (skipSemicolon first.2)).form :=
    headToken_form (skipSemicolon_sameForms read.2)
  simp only [last]
  split
  · exact .ok read.1
  · exact .error rfl

end
end Parser
end Query
end FlatTables
