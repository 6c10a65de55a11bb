import FlatTables.Proofs.Query.Cursor
import FlatTables.Proofs.Query.Positions

/-!
# Tokens and clauses in the text

The tokens of a text end with one end token at its length, and each stands behind the one before it,
but the text of a command may stand too far behind. Reading them through a cursor comes to an end
with the cursor on the tokens. A text that is no statement is rejected with a part of it.
-/

namespace FlatTables
namespace Query

/-! ## Rejected texts -/

theorem cites_of_tokensOf
    {source : List Char}
    {pieces : List Lexeme}
    {rejection : Rejection}
    (rejected : tokensOf source pieces = .error rejection) :
    rejection.Cites source := by
  induction pieces with
  | nil => cases rejected
  | cons piece pieces inductionHypothesis =>
      rw [tokensOf, Lexeme.token] at rejected
      cases isForm : piece.form? with
      | none =>
          simp only [isForm] at rejected
          cases rejected
          exact .ungrammatical _ (isExcerpt_clauseFrom source piece.start)
      | some form =>
          simp only [isForm] at rejected
          exact inductionHypothesis (map_eq_error_iff.1 rejected)

theorem cites_of_tokenize
    {sql : String}
    {rejection : Rejection}
    (rejected : tokenize sql = .error rejection) :
    rejection.Cites sql.toList := by
  unfold tokenize at rejected
  dsimp only at rejected
  split at rejected
  · cases rejected
    exact .ungrammatical _ (isExcerpt_clauseFrom _ _)
  · exact cites_of_tokensOf rejected

/-- The tokens of a text lie on a tape that ends. -/
theorem closed_of_tokenize
    {sql : String}
    {tokens : List Token}
    (read : tokenize sql = .ok tokens) :
    Tape.Closed ⟨sql.toList, tokens⟩ := by
  obtain ⟨body, split, _⟩ := exists_body_of_tokenize read
  exact ⟨body, _, split, rfl⟩

theorem cites_of_parse
    {sql : String}
    {rejection : Rejection}
    (rejected : Statement.parse sql = .error rejection) :
    rejection.Cites sql.toList := by
  unfold Statement.parse at rejected
  split at rejected
  · cases rejected
    exact .ungrammatical _ (isExcerpt_empty _)
  · split at rejected
    · cases rejected
      exact cites_of_tokenize ‹_›
    · rename_i read
      exact Tape.cites_of_ofTokens (closed_of_tokenize read) rejected

/-! ## Placement -/

/-- The tokens of a text end with its one end at its length. They stand at increasing positions, and
two stand at the same one exactly where the first is the text of a command whose arguments end with
a space or a tab. Reading them through a cursor ends without leaving them, and no loop makes more
rounds than there are tokens. If the text is no statement, the rejection shows a part of it without
blanks at its ends. -/
theorem tokens_and_clauses_placed (sql : String) :
    (∀ tokens, tokenize sql = .ok tokens →
      (∃ body, tokens = body ++ [⟨.finish, sql.length⟩] ∧ ∀ token ∈ body, token.form ≠ .finish) ∧
      tokens.IsChain (Precedes sql.toList) ∧
      ((tokens.Pairwise fun first second => first.position < second.position) ↔
        ∀ token ∈ tokens, ¬ token.Overshoots sql.toList) ∧
      ∀ rounds ≥ tokens.length, ∃ place < tokens.length,
        (Tape.mk sql.toList tokens).parse.perform rounds 0 =
          ((Parser.ofTokens sql.toList tokens).mapError .rejected, place)) ∧
    ∀ rejection, Statement.parse sql = .error rejection → rejection.Cites sql.toList := by
  refine ⟨fun tokens read => ?_, fun rejection => cites_of_parse⟩
  have order := isChain_of_tokenize read
  obtain ⟨body, split, noFinish⟩ := exists_body_of_tokenize read
  have last : ∀ token ∈ tokens.getLast?, ¬ token.Overshoots sql.toList := by
    intro token isLast overshoots
    rw [split, List.getLast?_concat] at isLast
    cases isLast
    obtain ⟨content, isText⟩ := Overshoots.isText overshoots
    cases isText
  refine ⟨⟨body, split, noFinish⟩, order, pairwise_lt_iff order last, ?_⟩
  exact fun rounds enough => Tape.perform_parse (closed_of_tokenize read) enough

/-- Behind a deletion, a further word is shown. -/
theorem tokens_and_clauses_placed_trailing :
    tokenize "DELETE FROM T  x " = .ok [⟨.keyword .delete, 0⟩, ⟨.keyword .from, 7⟩,
      ⟨.name "T", 12⟩, ⟨.name "x", 15⟩, ⟨.finish, 17⟩] ∧
    Statement.parse "DELETE FROM T  x " = .error (.ungrammatical .trailing "x") ∧
    [(⟨.keyword .delete, 0⟩ : Token), ⟨.keyword .from, 7⟩, ⟨.name "T", 12⟩, ⟨.name "x", 15⟩,
      ⟨.finish, 17⟩].IsChain (Precedes "DELETE FROM T  x ".toList) ∧
    Rejection.Cites "DELETE FROM T  x ".toList (.ungrammatical .trailing "x") := by
  have read : tokenize "DELETE FROM T  x " = .ok [⟨.keyword .delete, 0⟩, ⟨.keyword .from, 7⟩,
      ⟨.name "T", 12⟩, ⟨.name "x", 15⟩, ⟨.finish, 17⟩] := by
    decide +kernel
  have rejected : Statement.parse "DELETE FROM T  x " = .error (.ungrammatical .trailing "x") := by
    decide +kernel
  have placed := tokens_and_clauses_placed "DELETE FROM T  x "
  exact ⟨read, rejected, (placed.1 _ read).2.1, placed.2 _ rejected⟩

/-- The text of a command can stand where the end does. -/
theorem command_text_at_end :
    tokenize "SHOW a " = .ok [⟨.name "SHOW", 0⟩, ⟨.text "a", 7⟩, ⟨.finish, 7⟩] ∧
      ¬ [(⟨.name "SHOW", 0⟩ : Token), ⟨.text "a", 7⟩, ⟨.finish, 7⟩].Pairwise fun first second =>
        first.position < second.position := by
  decide +kernel

end Query
end FlatTables
