import FlatTables.Proofs.Query.Grammar

/-!
# Derivations

A derivation says by which alternatives of the grammar a sentence comes about, so it is kept as
data: two of them can be compared. Its tokens are its leaves in order, and its statement is what it
stands for. A derivation is known from its tokens, so no sentence has two.
-/

namespace FlatTables
namespace Query

/-! ## Trees -/

/-- One item, and further ones with commas before them. -/
structure Series (α : Type) where
  first : α
  others : List α
  deriving DecidableEq, Repr

/-- How a literal is derived. -/
inductive LiteralTree
  | text (content : String)
  | number (digits : String)
  deriving DecidableEq, Repr

/-- How the right side of a condition is derived. -/
inductive OperandTree
  | literal (tree : LiteralTree)
  | name (name : String)
  deriving DecidableEq, Repr

/-- How a condition is derived. -/
structure ConditionTree where
  column : String
  op : ComparisonOp
  operand : OperandTree
  deriving DecidableEq, Repr

/-- How the columns of a query are derived. -/
inductive ColumnsTree
  | star
  | names (names : Series String)
  deriving DecidableEq, Repr

/-- How a statement is derived. -/
inductive StatementTree
  | select (columns : ColumnsTree) (table : String) (condition : Option ConditionTree)
  | insert (table : String) (attributes : Series String) (literals : Series LiteralTree)
  | delete (table : String) (condition : Option ConditionTree)
  deriving DecidableEq, Repr

/-- How a sentence is derived: a statement, and whether a semicolon stands behind it. -/
structure SentenceTree where
  statement : StatementTree
  closed : Bool
  deriving DecidableEq, Repr

/-! ## Leaves and meanings -/

namespace Series

/-- The items in order. -/
def toList (series : Series α) : List α :=
  series.first :: series.others

/-- The tokens of a series whose items are single tokens. -/
def forms (form : α → TokenForm) (series : Series α) : List TokenForm :=
  commaList (series.toList.map form)

end Series

/-- The token of a literal. -/
def LiteralTree.form : LiteralTree → TokenForm
  | .text content => .text content
  | .number digits => .number digits

/-- What a statement keeps of a literal: a text with its quotes, or a number as it is written. -/
def LiteralTree.kept : LiteralTree → String
  | .text content => "'" ++ content ++ "'"
  | .number digits => digits

/-- The token of the right side of a condition. -/
def OperandTree.form : OperandTree → TokenForm
  | .literal tree => tree.form
  | .name own => .name own

/-- What a condition keeps of its right side: of a name, its text. -/
def OperandTree.kept : OperandTree → String
  | .literal tree => tree.kept
  | .name own => own

/-- The tokens of an optional condition with its keyword. -/
def ConditionTree.forms : Option ConditionTree → List TokenForm
  | none => []
  | some tree => [.keyword .where, .name tree.column, .operator tree.op, tree.operand.form]

/-- The condition that is derived. -/
def ConditionTree.condition (tree : ConditionTree) : Condition :=
  ⟨tree.column, tree.op, tree.operand.kept⟩

/-- The tokens of columns. -/
def ColumnsTree.forms : ColumnsTree → List TokenForm
  | .star => [.star]
  | .names series => series.forms .name

/-- The columns that are derived: all of them for a star only. -/
def ColumnsTree.columns : ColumnsTree → Columns
  | .star => .all
  | .names series => .listed series.toList

namespace StatementTree

/-- The tokens of a statement. -/
def forms : StatementTree → List TokenForm
  | .select columns table condition =>
      .keyword .select :: columns.forms ++ .keyword .from :: .name table ::
        ConditionTree.forms condition
  | .insert table attributes literals =>
      .keyword .insert :: .keyword .into :: .name table :: .open :: attributes.forms .name ++
        .close :: .keyword .values :: .open :: literals.forms LiteralTree.form ++ [.close]
  | .delete table condition =>
      .keyword .delete :: .keyword .from :: .name table :: ConditionTree.forms condition

/-- The statement that is derived. -/
def statement : StatementTree → Statement
  | .select columns table condition =>
      .select columns.columns table (condition.map ConditionTree.condition)
  | .insert table attributes literals =>
      .insert table attributes.toList (literals.toList.map LiteralTree.kept)
  | .delete table condition => .delete table (condition.map ConditionTree.condition)

end StatementTree

namespace SentenceTree

/-- What stands behind the statement of a sentence. -/
def ending (tree : SentenceTree) : List TokenForm :=
  if tree.closed then [.semicolon] else []

/-- The tokens of a sentence. -/
def forms (tree : SentenceTree) : List TokenForm :=
  tree.statement.forms ++ tree.ending

end SentenceTree

/-! ## A derivation is a derivation of its statement -/

theorem LiteralTree.isLiteral (tree : LiteralTree) : IsLiteral tree.kept tree.form := by
  cases tree with
  | text content => exact .text content
  | number digits => exact .number digits

theorem OperandTree.isOperand (tree : OperandTree) : IsOperand tree.kept tree.form := by
  cases tree with
  | literal tree => exact .literal tree.isLiteral
  | name name => exact .name name

theorem ConditionTree.derivesWhere (condition : Option ConditionTree) :
    DerivesWhere (condition.map ConditionTree.condition) (ConditionTree.forms condition) := by
  cases condition with
  | none => exact .absent
  | some tree => exact .present tree.column tree.op tree.operand.isOperand

theorem ColumnsTree.derivesColumns (tree : ColumnsTree) :
    DerivesColumns tree.columns tree.forms := by
  cases tree with
  | star => exact .all
  | names series => exact .listed series.first series.others

theorem StatementTree.derives (tree : StatementTree) : Derives tree.statement tree.forms := by
  cases tree with
  | select columns table condition =>
      exact .select table columns.derivesColumns (ConditionTree.derivesWhere condition)
  | insert table attributes literals =>
      refine .insert table attributes.first attributes.others (by simp [Series.toList]) ?_
      rw [List.forall₂_map_left_iff, List.forall₂_map_right_iff, List.forall₂_same]
      exact fun tree _ => tree.isLiteral
  | delete table condition => exact .delete table (ConditionTree.derivesWhere condition)

/-- The tokens of a derivation are a sentence of its statement. -/
theorem SentenceTree.sentence (tree : SentenceTree) :
    Sentence tree.statement.statement tree.forms := by
  obtain ⟨statement, closed⟩ := tree
  cases closed with
  | false => simpa [forms, ending] using Sentence.plain statement.derives
  | true => exact .closed statement.derives

/-! ## No sentence has two derivations -/

/-- The tokens of a series of items none of which is an end token hold none. -/
theorem Series.finish_not_mem_forms
    (form : α → TokenForm)
    (noFinish : ∀ item, form item ≠ .finish)
    (series : Series α) :
    TokenForm.finish ∉ series.forms form := by
  simp [forms, toList, commaList, noFinish, fun item => (noFinish item).symm]

theorem LiteralTree.form_ne_finish (tree : LiteralTree) : tree.form ≠ .finish := by
  cases tree <;> nofun

theorem ConditionTree.finish_not_mem_forms (condition : Option ConditionTree) :
    TokenForm.finish ∉ ConditionTree.forms condition := by
  cases condition with
  | none => nofun
  | some tree =>
      obtain ⟨column, op, operand⟩ := tree
      rcases operand with (_ | _) | _ <;>
        simp [forms, OperandTree.form, LiteralTree.form]

/-- A statement holds no end token. -/
theorem StatementTree.finish_not_mem_forms (tree : StatementTree) :
    TokenForm.finish ∉ tree.forms := by
  cases tree with
  | select columns table condition =>
      have inColumns : TokenForm.finish ∉ columns.forms := by
        cases columns with
        | star => nofun
        | names series => exact series.finish_not_mem_forms .name nofun
      simp [forms, inColumns, ConditionTree.finish_not_mem_forms]
  | insert table attributes literals =>
      simp [forms, attributes.finish_not_mem_forms .name nofun,
        literals.finish_not_mem_forms LiteralTree.form LiteralTree.form_ne_finish]
  | delete table condition => simp [forms, ConditionTree.finish_not_mem_forms]

theorem LiteralTree.form_injective : Function.Injective LiteralTree.form := by
  rintro (_ | _) (_ | _) same <;> cases same <;> rfl

theorem OperandTree.form_injective : Function.Injective OperandTree.form := by
  rintro (_ | _) (_ | _) same
  · exact congrArg _ (LiteralTree.form_injective same)
  · rename_i tree name
    cases tree <;> cases same
  · rename_i name tree
    cases tree <;> cases same
  · cases same
    rfl

/-- A series ends where no comma follows, so it is known from its tokens and those behind it. -/
theorem Series.eq_of_forms_append
    {form : α → TokenForm}
    (injective : Function.Injective form)
    {left right : Series α}
    {behindLeft behindRight : List TokenForm}
    (leftEnds : behindLeft.head? ≠ some .comma)
    (rightEnds : behindRight.head? ≠ some .comma)
    (same : left.forms form ++ behindLeft = right.forms form ++ behindRight) :
    left = right ∧ behindLeft = behindRight := by
  obtain ⟨first, others⟩ := left
  obtain ⟨own, more⟩ := right
  simp only [forms, toList, List.map_cons, commaList, List.cons_append, List.cons.injEq] at same
  obtain ⟨sameFirst, same⟩ := same
  obtain rfl := injective sameFirst
  suffices others = more ∧ behindLeft = behindRight by simpa using this
  induction others generalizing more with
  | nil =>
      cases more with
      | nil => simpa using same
      | cons item more => simp_all
  | cons item others inductionHypothesis =>
      cases more with
      | nil => simp_all [eq_comm]
      | cons next more =>
          simp only [List.map_cons, List.flatMap_cons, List.cons_append, List.nil_append,
            List.cons.injEq, true_and] at same
          obtain ⟨sameItem, same⟩ := same
          obtain rfl := injective sameItem
          obtain ⟨rfl, sameBehind⟩ := inductionHypothesis more same
          exact ⟨rfl, sameBehind⟩

theorem ConditionTree.eq_of_forms_append
    {left right : Option ConditionTree}
    {behindLeft behindRight : List TokenForm}
    (leftEnds : behindLeft.head? ≠ some (.keyword .where))
    (rightEnds : behindRight.head? ≠ some (.keyword .where))
    (same : ConditionTree.forms left ++ behindLeft = ConditionTree.forms right ++ behindRight) :
    left = right ∧ behindLeft = behindRight := by
  cases left with
  | none =>
      cases right with
      | none => exact ⟨rfl, same⟩
      | some tree => simp_all [ConditionTree.forms]
  | some tree =>
      cases right with
      | none => simp_all [ConditionTree.forms, eq_comm]
      | some other =>
          simp only [ConditionTree.forms, List.cons_append, List.nil_append, List.cons.injEq,
            TokenForm.name.injEq, TokenForm.operator.injEq, true_and] at same
          obtain ⟨sameColumn, sameOp, sameOperand, sameBehind⟩ := same
          obtain ⟨column, op, operand⟩ := tree
          obtain ⟨column', op', operand'⟩ := other
          cases sameColumn
          cases sameOp
          cases OperandTree.form_injective sameOperand
          exact ⟨rfl, sameBehind⟩

theorem ColumnsTree.eq_of_forms_append
    {left right : ColumnsTree}
    {behindLeft behindRight : List TokenForm}
    (leftEnds : behindLeft.head? ≠ some .comma)
    (rightEnds : behindRight.head? ≠ some .comma)
    (same : left.forms ++ behindLeft = right.forms ++ behindRight) :
    left = right ∧ behindLeft = behindRight := by
  cases left with
  | star =>
      cases right with
      | star => exact ⟨rfl, List.cons_injective same⟩
      | names series => cases same
  | names series =>
      cases right with
      | star => cases same
      | names other =>
          obtain ⟨rfl, sameBehind⟩ := Series.eq_of_forms_append
            (fun _ _ same => TokenForm.name.inj same) leftEnds rightEnds same
          exact ⟨rfl, sameBehind⟩

/-- A statement is known from its tokens and those behind it, which may be a semicolon. -/
theorem StatementTree.eq_of_forms_append
    {left right : StatementTree}
    {behindLeft behindRight : List TokenForm}
    (leftEnds : behindLeft.head? ≠ some (.keyword .where))
    (rightEnds : behindRight.head? ≠ some (.keyword .where))
    (same : left.forms ++ behindLeft = right.forms ++ behindRight) :
    left = right ∧ behindLeft = behindRight := by
  cases left with
  | select columns table condition =>
      cases right with
      | select columns' table' condition' =>
          simp only [forms, List.cons_append, List.append_assoc, List.cons.injEq, true_and] at same
          obtain ⟨rfl, fromKeyword⟩ :=
            ColumnsTree.eq_of_forms_append (by simp) (by simp) same
          simp only [List.cons.injEq, TokenForm.name.injEq, true_and] at fromKeyword
          obtain ⟨rfl, fromTable⟩ := fromKeyword
          obtain ⟨rfl, sameBehind⟩ :=
            ConditionTree.eq_of_forms_append leftEnds rightEnds fromTable
          exact ⟨rfl, sameBehind⟩
      | insert | delete => cases same
  | insert table attributes literals =>
      cases right with
      | insert table' attributes' literals' =>
          simp only [forms, List.cons_append, List.append_assoc, List.nil_append, List.cons.injEq,
            TokenForm.name.injEq, true_and] at same
          obtain ⟨rfl, fromTable⟩ := same
          obtain ⟨rfl, fromClose⟩ := Series.eq_of_forms_append
            (fun _ _ same => TokenForm.name.inj same) (by simp) (by simp) fromTable
          simp only [List.cons.injEq, true_and] at fromClose
          obtain ⟨rfl, fromLast⟩ := Series.eq_of_forms_append
            LiteralTree.form_injective (by simp) (by simp) fromClose
          exact ⟨rfl, List.cons_injective fromLast⟩
      | select | delete => cases same
  | delete table condition =>
      cases right with
      | delete table' condition' =>
          simp only [forms, List.cons_append, List.cons.injEq, TokenForm.name.injEq,
            true_and] at same
          obtain ⟨rfl, fromTable⟩ := same
          obtain ⟨rfl, sameBehind⟩ :=
            ConditionTree.eq_of_forms_append leftEnds rightEnds fromTable
          exact ⟨rfl, sameBehind⟩
      | select | insert => cases same

/-- A derivation is known from its tokens. -/
theorem SentenceTree.forms_injective : Function.Injective SentenceTree.forms := by
  have noWhere : ∀ tree : SentenceTree, tree.ending.head? ≠ some (.keyword .where) := by
    intro tree
    unfold ending
    split <;> simp
  intro left right same
  obtain ⟨sameStatement, sameEnding⟩ :=
    StatementTree.eq_of_forms_append (noWhere left) (noWhere right) same
  obtain ⟨statement, closed⟩ := left
  obtain ⟨other, otherClosed⟩ := right
  cases sameStatement
  cases closed <;> cases otherClosed <;> first | rfl | cases sameEnding

end Query
end FlatTables
