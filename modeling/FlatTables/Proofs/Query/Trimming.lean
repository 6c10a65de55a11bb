import FlatTables.Proofs.Query.Layout
import FlatTables.Proofs.Query.Padding
import FlatTables.Proofs.Query.Wording
import Mathlib.Data.List.Forall2

/-!
# Trimmed statements

Blanks around a statement do not matter. The pieces that count are the same with them and without: a
comment does not count, and the text of a command is trimmed. So the tokens have the same forms, and
the same statement is read, or the rejections are of one kind.
-/

namespace FlatTables
namespace Query

open Text (IsPadding isBlank)

/-! ## Pieces up to positions -/

namespace Lexeme.Same

variable {left right : Lexeme} (same : left.Same right)
include same

theorem isSymbol (c : Char) : left.isSymbol c = right.isSymbol c := by
  rw [Lexeme.isSymbol, Lexeme.isSymbol, same.kind, same.text]

theorem spellsOneOf (words : List String) : left.spellsOneOf words = right.spellsOneOf words := by
  rw [Lexeme.spellsOneOf, Lexeme.spellsOneOf, same.kind, same.text]

theorem isCommand : left.isCommand = right.isCommand :=
  same.spellsOneOf _

theorem opensHint : left.opensHint = right.opensHint :=
  same.spellsOneOf _

theorem opensCommand : left.opensCommand = right.opensCommand := by
  rw [Lexeme.opensCommand, Lexeme.opensCommand, same.isSymbol, same.spellsOneOf]

theorem isSign : left.isSign = right.isSign := by
  rw [Lexeme.isSign, Lexeme.isSign, same.isSymbol, same.isSymbol]

theorem form? : left.form? = right.form? := by
  rw [Lexeme.form?, Lexeme.form?, same.kind, same.text]

end Lexeme.Same

/-- Two lists of pieces have the same kinds and texts, wherever the pieces stand. -/
abbrev SamePieces : List Lexeme → List Lexeme → Prop :=
  List.Forall₂ Lexeme.Same

/-! ## Commands -/

namespace Lexeme.IsBlank

theorem isSymbol
    {piece : Lexeme}
    (blank : piece.IsBlank)
    (c : Char) :
    piece.isSymbol c = false := by
  simp [Lexeme.isSymbol, blank.kind]

end Lexeme.IsBlank

namespace Padded

variable {left right : List Lexeme} (padded : Padded left right)
include padded

/-- The texts of the pieces differ by blanks behind them. -/
theorem exists_text :
    ∃ text leftPadding rightPadding, IsPadding leftPadding ∧ IsPadding rightPadding ∧
      left.flatMap Lexeme.text = text ++ leftPadding ∧
      right.flatMap Lexeme.text = text ++ rightPadding := by
  have blankText : ∀ pieces : List Lexeme, (∀ piece ∈ pieces, piece.IsBlank) →
      IsPadding (pieces.flatMap Lexeme.text) := by
    intro pieces areBlank c member
    obtain ⟨piece, inPieces, inText⟩ := List.mem_flatMap.1 member
    exact (areBlank piece inPieces).text c inText
  induction padded with
  | blanks leftBlank rightBlank =>
      exact ⟨[], _, _, blankText _ leftBlank, blankText _ rightBlank, rfl, rfl⟩
  | @comment _ _ text padding right blank rightBlank =>
      refine ⟨text, [], padding ++ right.flatMap Lexeme.text, nofun,
        blank.append (blankText _ rightBlank), ?_, ?_⟩
      · simp
      · simp
  | @cons first second _ _ same _ inductionHypothesis =>
      obtain ⟨text, leftPadding, rightPadding, leftBlank, rightBlank, leftText, rightText⟩ :=
        inductionHypothesis
      refine ⟨first.text ++ text, leftPadding, rightPadding, leftBlank, rightBlank, ?_, ?_⟩
      · rw [List.flatMap_cons, leftText, List.append_assoc]
      · rw [List.flatMap_cons, rightText, ← same.text, List.append_assoc]

/-- A command has the same text. -/
theorem commandText? :
    SamePieces (Query.commandText? left).toList (Query.commandText? right).toList := by
  obtain ⟨text, leftPadding, rightPadding, leftBlank, rightBlank, leftText, rightText⟩ :=
    padded.exists_text
  have found : ∀ (pieces : List Lexeme) (padding : List Char), IsPadding padding →
      pieces.flatMap Lexeme.text = text ++ padding →
      (Query.commandText? pieces).map (fun piece => (piece.kind, piece.text)) =
        if Text.trimChars text = [] then none
        else some (.quotedText (String.ofList (Text.trimChars text)), Text.trimChars text) := by
    intro pieces padding blank whole
    unfold Query.commandText?
    simp only [whole, blank.trimChars_append]
    cases trimmed : Text.trimChars text with
    | nil => rfl
    | cons c rest =>
        cases last : pieces.getLast? with
        | some piece => rfl
        | none =>
            rw [List.getLast?_eq_none_iff.1 last, List.flatMap_nil] at whole
            rw [(List.append_eq_nil_iff.1 whole.symm).1] at trimmed
            cases trimmed
  have same := (found left leftPadding leftBlank leftText).trans
    (found right rightPadding rightBlank rightText).symm
  generalize Query.commandText? left = leftCommand at same
  generalize Query.commandText? right = rightCommand at same
  cases leftCommand with
  | none =>
      cases rightCommand with
      | none => exact .nil
      | some piece => cases same
  | some piece =>
      cases rightCommand with
      | none => cases same
      | some other =>
          obtain ⟨kind, content⟩ := Prod.mk.inj (Option.some.inj same)
          exact .cons ⟨kind, content⟩ .nil

/-- The arguments of a command end at the same semicolon. -/
theorem takeWhile :
    Padded (left.takeWhile (!·.isSymbol ';')) (right.takeWhile (!·.isSymbol ';')) := by
  induction padded with
  | blanks leftBlank rightBlank =>
      exact .blanks (fun piece member => leftBlank piece ((List.takeWhile_prefix _).subset member))
        (fun piece member => rightBlank piece ((List.takeWhile_prefix _).subset member))
  | comment blank rightBlank =>
      exact .comment blank fun piece member =>
        rightBlank piece ((List.takeWhile_prefix _).subset member)
  | cons same rest inductionHypothesis =>
      rw [List.takeWhile_cons, List.takeWhile_cons, same.isSymbol]
      split
      · exact .cons same inductionHypothesis
      · exact .blanks nofun nofun

theorem dropWhile :
    Padded (left.dropWhile (!·.isSymbol ';')) (right.dropWhile (!·.isSymbol ';')) := by
  induction padded with
  | blanks leftBlank rightBlank =>
      exact .blanks (fun piece member => leftBlank piece ((List.dropWhile_suffix _).subset member))
        (fun piece member => rightBlank piece ((List.dropWhile_suffix _).subset member))
  | comment blank rightBlank =>
      exact .blanks nofun fun piece member =>
        rightBlank piece ((List.dropWhile_suffix _).subset member)
  | cons same rest inductionHypothesis =>
      rw [List.dropWhile_cons, List.dropWhile_cons, same.isSymbol]
      split
      · exact inductionHypothesis
      · exact .cons same rest

end Padded

/-! ## Pieces that count -/

theorem significantAfter_isBlank
    {blanks : List Lexeme}
    (areBlank : ∀ piece ∈ blanks, piece.IsBlank)
    (previous : Option Lexeme) :
    significantAfter previous blanks = [] := by
  induction blanks with
  | nil => rw [significantAfter]
  | cons piece rest inductionHypothesis =>
      rw [List.forall_mem_cons] at areBlank
      rw [significantAfter_blank areBlank.1.kind, inductionHypothesis areBlank.2]

/-- A comment is dropped unless it is a hint. -/
theorem significantAfter_comment
    {piece : Lexeme}
    {opensHint : Bool}
    (comment : piece.kind = .comment opensHint)
    (previous : Option Lexeme)
    (pieces : List Lexeme) :
    significantAfter previous (piece :: pieces) =
      if opensHint && previous.any Lexeme.opensHint then
        { piece with kind := .hint } ::
          significantAfter (some { piece with kind := .hint }) pieces
      else significantAfter previous pieces := by
  rw [significantAfter, comment]

/-- Any other piece counts, and behind a command one text. -/
theorem significantAfter_counted
    {piece : Lexeme}
    (noBlank : piece.kind ≠ .blank)
    (noComment : ∀ opensHint, piece.kind ≠ .comment opensHint)
    (previous : Option Lexeme)
    (pieces : List Lexeme) :
    significantAfter previous (piece :: pieces) =
      if piece.isCommand && previous.all Lexeme.opensCommand then
        piece :: ((commandText? (pieces.takeWhile (!·.isSymbol ';'))).toList ++
          significantAfter (some piece) (pieces.dropWhile (!·.isSymbol ';')))
      else piece :: significantAfter (some piece) pieces := by
  rw [significantAfter]
  split
  · rename_i blank
    exact absurd blank noBlank
  · rename_i comment
    exact absurd comment (noComment _)
  · rfl

/-- The same pieces count in a text and in the padded text. -/
theorem Padded.significantAfter
    {left right : List Lexeme}
    (padded : Padded left right)
    {previous other : Option Lexeme}
    (samePrevious : Option.Rel Lexeme.Same previous other) :
    SamePieces (Query.significantAfter previous left) (Query.significantAfter other right) := by
  have hints : previous.any Lexeme.opensHint = other.any Lexeme.opensHint := by
    cases samePrevious with
    | none => rfl
    | some same => exact same.opensHint
  have commands : previous.all Lexeme.opensCommand = other.all Lexeme.opensCommand := by
    cases samePrevious with
    | none => rfl
    | some same => exact same.opensCommand
  cases padded with
  | blanks leftBlank rightBlank =>
      rw [significantAfter_isBlank leftBlank, significantAfter_isBlank rightBlank]
      exact .nil
  | comment blank rightBlank =>
      have dropped : ∀ own position content pieces,
          Query.significantAfter own (⟨.comment false, position, content⟩ :: pieces) =
            Query.significantAfter own pieces := fun own position content pieces => by
        rw [significantAfter_comment rfl, Bool.false_and]
        rfl
      rw [dropped, dropped, significantAfter_isBlank rightBlank,
        significantAfter_isBlank (List.forall_mem_nil _)]
      exact .nil
  | @cons first second left right same rest =>
      by_cases isBlank : first.kind = .blank
      · rw [significantAfter_blank isBlank, significantAfter_blank (same.kind ▸ isBlank)]
        exact rest.significantAfter samePrevious
      by_cases isComment : ∃ opensHint, first.kind = .comment opensHint
      · obtain ⟨opensHint, comment⟩ := isComment
        rw [significantAfter_comment comment, significantAfter_comment (same.kind ▸ comment), hints]
        split
        · exact .cons ⟨rfl, same.text⟩ (rest.significantAfter (.some ⟨rfl, same.text⟩))
        · exact rest.significantAfter samePrevious
      · have noComment := not_exists.1 isComment
        rw [significantAfter_counted isBlank noComment,
          significantAfter_counted (same.kind ▸ isBlank) (same.kind ▸ noComment), same.isCommand,
          commands]
        split
        · refine .cons same (List.rel_append rest.takeWhile.commandText? ?_)
          exact rest.dropWhile.significantAfter (.some same)
        · exact .cons same (rest.significantAfter (.some same))
termination_by left.length
decreasing_by
  all_goals simp only [List.length_cons]
  · exact Nat.lt_succ_self _
  · exact Nat.lt_succ_self _
  · exact Nat.lt_succ_self _
  · exact Nat.lt_succ_self _
  · exact Nat.lt_succ_of_le (List.dropWhile_suffix _).length_le

/-- Blanks before the other pieces do not count. -/
theorem significantAfter_append
    {blanks : List Lexeme}
    (areBlank : ∀ piece ∈ blanks, piece.IsBlank)
    (previous : Option Lexeme)
    (pieces : List Lexeme) :
    significantAfter previous (blanks ++ pieces) = significantAfter previous pieces := by
  induction blanks with
  | nil => rfl
  | cons piece rest inductionHypothesis =>
      rw [List.forall_mem_cons] at areBlank
      rw [List.cons_append, significantAfter_blank areBlank.1.kind, inductionHypothesis areBlank.2]

/-! ## Tokens -/

namespace SamePieces

variable {left right : List Lexeme} (same : SamePieces left right)
include same

theorem joinSigns : SamePieces (Query.joinSigns left) (Query.joinSigns right) := by
  fun_induction Query.joinSigns left generalizing right with
  | case1 lexeme next rest signed inductionHypothesis =>
      cases same with
      | cons first others =>
          cases others with
          | cons second others =>
              rw [Query.joinSigns, ← first.isSign, ← second.kind, if_pos signed]
              exact .cons ⟨rfl, by rw [first.text, second.text]⟩ (inductionHypothesis others)
  | case2 lexeme next rest unsigned inductionHypothesis =>
      cases same with
      | cons first others =>
          cases others with
          | cons second others =>
              rw [Query.joinSigns, ← first.isSign, ← second.kind, if_neg unsigned]
              exact .cons first (inductionHypothesis (.cons second others))
  | case3 pieces short =>
      cases same with
      | nil => exact .nil
      | cons first others =>
          cases others with
          | nil => exact .cons first .nil
          | cons second others => exact absurd rfl (short _ _ _)

/-- The tokens have the same forms, or the same first piece is no token. -/
theorem tokensOf (source other : List Char) :
    Alike SameForms (Query.tokensOf source left) (Query.tokensOf other right) := by
  induction same with
  | nil => exact .ok (.cons .nil)
  | cons first others inductionHypothesis =>
      unfold Query.tokensOf Lexeme.token
      rw [first.form?]
      cases Lexeme.form? _ with
      | none => exact .error rfl
      | some form => exact inductionHypothesis.map fun _ _ forms => .cons forms

end SamePieces

/-- A statement and the trimmed statement have tokens of the same forms, or neither has tokens. -/
theorem tokenize_trim (sql : String) :
    Alike SameForms (tokenize (Text.trim sql)) (tokenize sql) := by
  obtain ⟨padding, blank, split⟩ := Text.exists_padding sql.toList
  obtain ⟨blanks, start, areBlank, cutAll⟩ := lexemesFrom_dropWhile false 0 sql.toList
  have alike := lexemesFrom_append blank false 0 start (Text.trimChars sql.toList)
  rw [← split] at alike
  simp only [tokenize, lexemes, cutAll, Text.trim, String.toList_ofList]
  generalize lexemesFrom false 0 (Text.trimChars sql.toList) = trimmed at alike
  generalize lexemesFrom false start (sql.toList.dropWhile isBlank) = whole at alike
  cases alike with
  | unclosed fault other => exact .error rfl
  | @pieces left right padded =>
      have same : SamePieces (significant left) (significant (blanks ++ right)) := by
        unfold significant
        rw [significantAfter_append areBlank]
        exact padded.significantAfter .none
      exact same.joinSigns.tokensOf _ _

/-- Blanks around a statement do not matter: without them, the same statement is read, or the
rejection is of the same kind. -/
theorem parse_trim (sql : String) :
    Alike Eq (Statement.parse (Text.trim sql)) (Statement.parse sql) := by
  have blankAlike : Text.isBlankText (Text.trim sql) = Text.isBlankText sql := by
    have trimmed := Text.trimChars_eq_nil_iff (Text.trimChars sql.toList)
    rw [Text.trimChars_trimChars, Text.trimChars_eq_nil_iff] at trimmed
    rw [Text.isBlankText, Text.isBlankText, Text.trim, String.toList_ofList]
    exact Bool.eq_iff_iff.2 trimmed.symm
  have tokens := tokenize_trim sql
  unfold Statement.parse
  rw [blankAlike]
  split
  · exact .error rfl
  · generalize tokenize (Text.trim sql) = trimmed at tokens
    generalize tokenize sql = whole at tokens
    cases tokens with
    | error sameKind => exact .error sameKind
    | ok sameForms => exact Parser.ofTokens_alike sameForms

end Query
end FlatTables
