import FlatTables.Proofs.Query.Derivation

/-!
# Accepted tokens

Every part that the parser has read is derived, with whatever follows it left over. Together with
the reading of sentences this shows that the parser accepts exactly the lists of tokens that have a
derivation, and that it reads each as the statement its derivation stands for.
-/

namespace FlatTables
namespace Query

namespace Parser

section
variable {source : List Char} {tokens rest : List Token}

theorem expect_eq_ok
    {form : TokenForm}
    {what : Expectation}
    (read : expect source form what tokens = .ok rest) :
    tokens.map Token.form = form :: rest.map Token.form := by
  cases tokens with
  | nil => cases read
  | cons token behind =>
      by_cases isForm : token.form = form
      · simp only [expect, isForm, if_true] at read
        cases read
        rw [List.map_cons, isForm]
      · simp only [expect, isForm, if_false] at read
        cases read

theorem name_eq_ok
    {what : Expectation}
    {own : String}
    (read : name source what tokens = .ok (own, rest)) :
    tokens.map Token.form = .name own :: rest.map Token.form := by
  unfold name at read
  split at read
  · cases read
    rfl
  · cases read

theorem moreNames_eq_ok
    {others : List String}
    (read : moreNames source tokens = .ok (others, rest)) :
    tokens.map Token.form =
      (others.map TokenForm.name).flatMap ([.comma, ·]) ++ rest.map Token.form := by
  fun_induction moreNames source tokens generalizing others with
  | case1 comma own position behind inductionHypothesis =>
      obtain ⟨⟨more, left⟩, readMore, equal⟩ := map_eq_ok_iff.1 read
      cases equal
      simp [inductionHypothesis readMore]
  | case2 => cases read
  | case3 =>
      cases read
      rfl

theorem names_eq_ok
    {own : List String}
    (read : names source tokens = .ok (own, rest)) :
    ∃ tree : Series String, tree.toList = own ∧
      tokens.map Token.form = tree.forms .name ++ rest.map Token.form := by
  obtain ⟨⟨first, behind⟩, readFirst, read⟩ := bind_eq_ok_iff.1 read
  obtain ⟨⟨others, left⟩, readOthers, equal⟩ := bind_eq_ok_iff.1 read
  cases equal
  refine ⟨⟨first, others⟩, rfl, ?_⟩
  rw [name_eq_ok readFirst, moreNames_eq_ok readOthers]
  rfl

/-- A token that is read as a literal is derived as one. -/
theorem literal?_eq_some
    {form : TokenForm}
    {own : String}
    (read : literal? form = some own) :
    ∃ tree : LiteralTree, tree.kept = own ∧ tree.form = form := by
  unfold literal? at read
  split at read
  · cases read
    exact ⟨.text _, rfl, rfl⟩
  · cases read
    exact ⟨.number _, rfl, rfl⟩
  · cases read

theorem literal_eq_ok
    {own : String}
    (read : literal source tokens = .ok (own, rest)) :
    ∃ tree : LiteralTree, tree.kept = own ∧
      tokens.map Token.form = tree.form :: rest.map Token.form := by
  unfold literal at read
  split at read
  · cases read
  · split at read
    · rename_i found
      cases read
      obtain ⟨tree, isLiteral, isForm⟩ := literal?_eq_some found
      exact ⟨tree, isLiteral, by rw [List.map_cons, isForm]⟩
    · cases read

theorem moreLiterals_eq_ok
    {others : List String}
    (read : moreLiterals source tokens = .ok (others, rest)) :
    ∃ trees : List LiteralTree, trees.map LiteralTree.kept = others ∧
      tokens.map Token.form =
        (trees.map LiteralTree.form).flatMap ([.comma, ·]) ++ rest.map Token.form := by
  fun_induction moreLiterals source tokens generalizing others with
  | case1 comma token behind own found inductionHypothesis =>
      obtain ⟨⟨more, left⟩, readMore, equal⟩ := map_eq_ok_iff.1 read
      cases equal
      obtain ⟨tree, isLiteral, isForm⟩ := literal?_eq_some found
      obtain ⟨trees, areLiterals, shape⟩ := inductionHypothesis readMore
      exact ⟨tree :: trees, by simp [isLiteral, areLiterals], by simp [isForm, shape]⟩
  | case2 => cases read
  | case3 => cases read
  | case4 =>
      cases read
      exact ⟨[], rfl, rfl⟩

theorem literals_eq_ok
    {own : List String}
    (read : literals source tokens = .ok (own, rest)) :
    ∃ tree : Series LiteralTree, tree.toList.map LiteralTree.kept = own ∧
      tokens.map Token.form = tree.forms LiteralTree.form ++ rest.map Token.form := by
  obtain ⟨⟨first, behind⟩, readFirst, read⟩ := bind_eq_ok_iff.1 read
  obtain ⟨⟨others, left⟩, readOthers, equal⟩ := bind_eq_ok_iff.1 read
  cases equal
  obtain ⟨tree, isLiteral, shape⟩ := literal_eq_ok readFirst
  obtain ⟨trees, areLiterals, behindShape⟩ := moreLiterals_eq_ok readOthers
  refine ⟨⟨tree, trees⟩, by simp [Series.toList, isLiteral, areLiterals], ?_⟩
  rw [shape, behindShape]
  rfl

/-- A token that is read as the right side of a condition is derived as one. -/
theorem operand?_eq_some
    {form : TokenForm}
    {own : String}
    (read : operand? form = some own) :
    ∃ tree : OperandTree, tree.kept = own ∧ tree.form = form := by
  unfold operand? at read
  split at read
  · cases read
    exact ⟨.name _, rfl, rfl⟩
  · obtain ⟨tree, isLiteral, isForm⟩ := literal?_eq_some read
    exact ⟨.literal tree, isLiteral, isForm⟩

/-- Tokens that make up a condition are a name, an operator and an operand: the first operator
divides them, and one token stands on either side of it. -/
theorem conditionOf_eq_ok
    {own : Condition}
    (read : conditionOf tokens = .ok own) :
    ∃ tree : ConditionTree, tree.condition = own ∧
      .keyword .where :: tokens.map Token.form = ConditionTree.forms (some tree) := by
  have divided := List.takeWhile_append_dropWhile (p := (!isOperator ·)) (l := tokens)
  unfold conditionOf at read
  split at read
  · cases read
  split at read
  · cases read
  · cases read
  split at read
  · rename_i left right
    rw [left, right] at divided
    split at read
    · split at read
      · rename_i found
        cases read
        obtain ⟨operand, isLiteral, isForm⟩ := operand?_eq_some found
        refine ⟨⟨_, _, operand⟩, by rw [ConditionTree.condition, isLiteral], ?_⟩
        rw [← divided, ConditionTree.forms, isForm]
        rfl
      · cases read
    · cases read
  · cases read

theorem optionalCondition_eq_ok
    {own : Option Condition}
    (read : optionalCondition source tokens = .ok (own, rest)) :
    ∃ tree : Option ConditionTree, tree.map ConditionTree.condition = own ∧
      tokens.map Token.form = ConditionTree.forms tree ++ rest.map Token.form := by
  unfold optionalCondition at read
  split at read
  · rename_i position behind
    obtain ⟨⟨condition, left⟩, readCondition, equal⟩ := map_eq_ok_iff.1 read
    cases equal
    unfold Parser.condition at readCondition
    split at readCondition
    · rename_i collected
      cases readCondition
      obtain ⟨tree, isCondition, shape⟩ := conditionOf_eq_ok collected
      refine ⟨some tree, congrArg some isCondition, ?_⟩
      rw [← shape, List.cons_append, ← List.map_append, List.takeWhile_append_dropWhile]
      rfl
    · cases readCondition
  · cases read
    exact ⟨none, rfl, rfl⟩

theorem columns_eq_ok
    {own : Columns}
    (read : columns source tokens = .ok (own, rest)) :
    ∃ tree : ColumnsTree, tree.columns = own ∧
      tokens.map Token.form = tree.forms ++ rest.map Token.form := by
  unfold columns at read
  split at read
  · cases read
    exact ⟨.star, rfl, rfl⟩
  · obtain ⟨⟨names, left⟩, readNames, equal⟩ := map_eq_ok_iff.1 read
    cases equal
    obtain ⟨tree, areNames, shape⟩ := names_eq_ok readNames
    exact ⟨.names tree, congrArg _ areNames, shape⟩

/-- Tokens that are read as a statement are derived as it. -/
theorem statement_eq_ok
    {own : Statement}
    (read : statement source tokens = .ok (own, rest)) :
    ∃ tree : StatementTree, tree.statement = own ∧
      tokens.map Token.form = tree.forms ++ rest.map Token.form := by
  unfold statement at read
  split at read
  · simp only [select, expectKeyword, bind_eq_ok_iff] at read
    obtain ⟨⟨_, _⟩, readColumns, _, readFrom, ⟨table, _⟩, readTable, ⟨_, _⟩, readWhere, equal⟩ :=
      read
    cases equal
    obtain ⟨columns, rfl, columnsShape⟩ := columns_eq_ok readColumns
    obtain ⟨condition, rfl, whereShape⟩ := optionalCondition_eq_ok readWhere
    refine ⟨.select columns table condition, rfl, ?_⟩
    simp [StatementTree.forms, columnsShape, expect_eq_ok readFrom, name_eq_ok readTable,
      whereShape]
  · simp only [insert, expectKeyword, bind_eq_ok_iff] at read
    obtain ⟨_, readInto, ⟨table, _⟩, readTable, _, readOpen, ⟨_, _⟩, readNames, _, readClose, _,
      readValues, _, readList, ⟨_, _⟩, readLiterals, _, readLast, equal⟩ := read
    cases equal
    obtain ⟨attributes, rfl, namesShape⟩ := names_eq_ok readNames
    obtain ⟨literals, rfl, literalsShape⟩ := literals_eq_ok readLiterals
    refine ⟨.insert table attributes literals, rfl, ?_⟩
    simp [StatementTree.forms, expect_eq_ok readInto, name_eq_ok readTable, expect_eq_ok readOpen,
      namesShape, expect_eq_ok readClose, expect_eq_ok readValues, expect_eq_ok readList,
      literalsShape, expect_eq_ok readLast]
  · simp only [delete, expectKeyword, bind_eq_ok_iff] at read
    obtain ⟨_, readFrom, ⟨table, _⟩, readTable, ⟨_, _⟩, readWhere, equal⟩ := read
    cases equal
    obtain ⟨condition, rfl, whereShape⟩ := optionalCondition_eq_ok readWhere
    refine ⟨.delete table condition, rfl, ?_⟩
    simp [StatementTree.forms, expect_eq_ok readFrom, name_eq_ok readTable, whereShape]
  · cases read

/-- Tokens with one end token, the last, that are read as a statement are derived as a sentence of
it. -/
theorem ofTokens_eq_ok
    {body : List Token}
    {last : Token}
    (ends : last.form = .finish)
    (sole : ∀ token ∈ body, token.form ≠ .finish)
    {own : Statement}
    (read : ofTokens source (body ++ [last]) = .ok own) :
    ∃ tree : SentenceTree, tree.statement.statement = own ∧
      tree.forms = body.map Token.form := by
  obtain ⟨⟨_, behind⟩, readStatement, read⟩ := bind_eq_ok_iff.1 read
  obtain ⟨tree, rfl, shape⟩ := statement_eq_ok readStatement
  have atEnd : (headToken source (skipSemicolon behind)).form = .finish := by
    by_contra notEnd
    simp only [notEnd, if_false] at read
    cases read
  simp only [atEnd, if_true] at read
  cases read
  have absent : TokenForm.finish ∉ body.map Token.form := by
    rintro member
    obtain ⟨token, inBody, isFinish⟩ := List.mem_map.1 member
    exact sole token inBody isFinish
  rw [List.map_append, List.map_singleton, ends] at shape
  -- The only end token stands behind the statement, or behind the semicolon that follows it.
  have split : ∀ before after, body.map Token.form ++ [.finish] = before ++ .finish :: after →
      before = body.map Token.form := fun before after same =>
    ((List.append_cons_inj_of_notMem absent (by simp)).1 same).1.symm
  cases behind with
  | nil =>
      have member : TokenForm.finish ∈ tree.forms := by
        rw [List.map_nil, List.append_nil] at shape
        simp [← shape]
      exact absurd member tree.finish_not_mem_forms
  | cons token behind =>
      unfold skipSemicolon at atEnd
      split at atEnd
      · rename_i position left equal
        cases equal
        cases behind with
        | nil =>
            have lasts := congrArg List.getLast? shape
            simp at lasts
        | cons next behind =>
            refine ⟨⟨tree, true⟩, rfl, split _ (behind.map Token.form) ?_⟩
            have isFinish : next.form = .finish := atEnd
            rw [shape]
            simp [SentenceTree.forms, SentenceTree.ending, isFinish]
      · refine ⟨⟨tree, false⟩, rfl, split _ (behind.map Token.form) ?_⟩
        have isFinish : token.form = .finish := atEnd
        rw [shape]
        simp [SentenceTree.forms, SentenceTree.ending, isFinish]

end

/-- The parser accepts a list of tokens with one end token, the last, exactly if the tokens before
it have a derivation. There is at most one, and the statement that is read is the one it derives. -/
theorem ofTokens_eq_ok_iff_derived
    (source : List Char)
    (body : List Token)
    (last : Token)
    (ends : last.form = .finish)
    (sole : ∀ token ∈ body, token.form ≠ .finish) :
    (∀ own : Statement, ofTokens source (body ++ [last]) = .ok own ↔
      ∃ tree : SentenceTree, tree.forms = body.map Token.form ∧ tree.statement.statement = own) ∧
      ∀ tree other : SentenceTree, tree.forms = body.map Token.form →
        other.forms = body.map Token.form → tree = other := by
  refine ⟨fun own => ⟨fun read => ?_, ?_⟩, fun tree other derives derivesToo => ?_⟩
  · obtain ⟨tree, isOwn, derives⟩ := ofTokens_eq_ok ends sole read
    exact ⟨tree, derives, isOwn⟩
  · rintro ⟨tree, derives, rfl⟩
    refine ofTokens_of_sentence source tree.sentence ?_
    rw [derives, List.map_append, List.map_singleton, ends]
  · exact SentenceTree.forms_injective (derives.trans derivesToo.symm)

/-- A deletion with a condition on a bare word is read by its only derivation, and a second
semicolon leaves none. -/
theorem ofTokens_eq_ok_iff_derived_sample :
    ofTokens [] ([⟨.keyword .delete, 0⟩, ⟨.keyword .from, 7⟩, ⟨.name "T", 12⟩,
        ⟨.keyword .where, 14⟩, ⟨.name "a", 20⟩, ⟨.operator .notEqual, 22⟩, ⟨.name "b", 25⟩,
        ⟨.semicolon, 26⟩] ++ [⟨.finish, 27⟩]) = .ok (.delete "T" (some ⟨"a", .notEqual, "b"⟩)) ∧
      ∀ tree : SentenceTree, tree.forms ≠
        [.keyword .delete, .keyword .from, .name "T", .semicolon, .semicolon] := by
  constructor
  · have accepts := (ofTokens_eq_ok_iff_derived [] [⟨.keyword .delete, 0⟩, ⟨.keyword .from, 7⟩,
      ⟨.name "T", 12⟩, ⟨.keyword .where, 14⟩, ⟨.name "a", 20⟩, ⟨.operator .notEqual, 22⟩,
      ⟨.name "b", 25⟩, ⟨.semicolon, 26⟩] ⟨.finish, 27⟩ rfl (by decide)).1
    exact (accepts _).2 ⟨⟨.delete "T" (some ⟨"a", .notEqual, .name "b"⟩), true⟩, rfl, rfl⟩
  · intro tree derives
    have accepts := (ofTokens_eq_ok_iff_derived [] [⟨.keyword .delete, 0⟩, ⟨.keyword .from, 7⟩,
      ⟨.name "T", 12⟩, ⟨.semicolon, 13⟩, ⟨.semicolon, 14⟩] ⟨.finish, 15⟩ rfl (by decide)).1
    cases (accepts tree.statement.statement).2 ⟨tree, derives, rfl⟩

end Parser
end Query
end FlatTables
