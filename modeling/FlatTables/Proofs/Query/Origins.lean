import FlatTables.Proofs.Query.Layout
import FlatTables.Proofs.Query.Scanning

/-!
# Where pieces come from

A piece that counts lies in the text, or it is made of the pieces behind a command. That a word is
a whole word has to be followed from piece to piece: only a number, or a phrase that no statement
can hold, may directly precede it.
-/

namespace FlatTables
namespace Query

open Text (isBlank)

/-! ## Places -/

/-- The last character of a text is not one of a word. -/
def EndsOutsideWord (before : List Char) : Prop :=
  ∀ c, before.getLast? = some c → isWordChar c = false

/-- Behind a text stands a number, up to where it can be read. -/
inductive NumberAt (before : List Char) : (number after : List Char) → Prop
  | intro (marked : Bool) {c : Char} {tail after : List Char} (starts : EndsOutsideWord before)
      (digit : c.isDigit = true)
      (stops : numberLength marked .absent (tail ++ after) = tail.length) :
      NumberAt before (c :: tail) after

/-- A place in a text at which a word may start: not inside a word, or directly behind a number. -/
def StartsWord (before after : List Char) : Prop :=
  EndsOutsideWord before ∨ ∃ front number, before = front ++ number ∧ NumberAt front number after

/-- A place at which a word or a number may start, if one of them stands there. -/
def Fresh (before after : List Char) : Prop :=
  Apart before after ∨ ∃ front number, before = front ++ number ∧ NumberAt front number after

theorem fresh_nil (text : List Char) : Fresh [] text :=
  .inl nofun

/-- What can be read of a number is followed by no digit. -/
theorem isDigit_eq_false_of_numberLength
    {point : Bool}
    {exponent : ExponentState}
    {tail after : List Char}
    (stops : numberLength point exponent (tail ++ after) = tail.length)
    {c : Char}
    (first : after.head? = some c) :
    c.isDigit = false := by
  induction tail generalizing point exponent with
  | nil =>
      cases after with
      | nil => cases first
      | cons d after =>
          cases first
          rw [List.nil_append, numberLength] at stops
          refine Bool.eq_false_iff.2 fun digit => ?_
          simp [digit] at stops
  | cons d tail inductionHypothesis =>
      rw [List.cons_append, numberLength, List.length_cons] at stops
      split_ifs at stops
      all_goals exact inductionHypothesis (Nat.succ.inj stops)

theorem Apart.endsOutsideWord
    {before after : List Char}
    (apart : Apart before after)
    {c : Char}
    (first : after.head? = some c)
    (isWord : isWordChar c = true) :
    EndsOutsideWord before :=
  fun d isLast => apart d c isLast first isWord

theorem Fresh.startsWord
    {before after : List Char}
    (fresh : Fresh before after)
    {c : Char}
    (first : after.head? = some c)
    (isWord : isWordChar c = true) :
    StartsWord before after :=
  fresh.imp_left fun apart => apart.endsOutsideWord first isWord

/-- A number does not start directly behind a number. -/
theorem Fresh.endsOutsideWord
    {before after : List Char}
    (fresh : Fresh before after)
    {c : Char}
    (first : after.head? = some c)
    (digit : c.isDigit = true) :
    EndsOutsideWord before := by
  rcases fresh with apart | ⟨front, number, rfl, isNumber⟩
  · exact apart.endsOutsideWord first (isWordChar_of_isDigit digit)
  · cases isNumber with
    | intro marked starts _ stops =>
        rw [isDigit_eq_false_of_numberLength stops first] at digit
        cases digit

/-- A piece that is a whole word or ends with no character of a word. -/
theorem IsPiece.apart
    {kind : LexemeKind}
    {own after : List Char}
    (isPiece : IsPiece kind own after)
    (noNumber : kind ≠ .number)
    (noPhrase : kind ≠ .phrase) :
    own ≠ [] ∧ Apart own after := by
  have quoted : ∀ (quote : Char) (front rest : List Char), isWordChar quote = false →
      Apart (front ++ [quote]) rest := by
    rintro quote front rest noWord c d isLast _ _
    rw [List.getLast?_concat] at isLast
    cases isLast
    exact noWord
  cases isPiece with
  | @blank c tail after blank =>
      refine ⟨List.cons_ne_nil _ _, fun d e isLast _ _ => ?_⟩
      simp [isWordChar, blank d (List.mem_of_getLast? isLast)]
  | comment noText apart => exact ⟨List.cons_ne_nil _ _, apart⟩
  | number => exact absurd rfl noNumber
  | quotedText content =>
      exact ⟨List.cons_ne_nil _ _, quoted '\'' ('\'' :: doubled '\'' content.toList) _ (by decide)⟩
  | quotedName content =>
      exact ⟨List.cons_ne_nil _ _, quoted '"' ('"' :: doubled '"' content.toList) _ (by decide)⟩
  | @nationalText mark content =>
      exact ⟨List.cons_ne_nil _ _,
        quoted '\'' (mark :: '\'' :: doubled '\'' content.toList) _ (by decide)⟩
  | symbol noText delimiters =>
      refine ⟨List.cons_ne_nil _ _, fun d e isLast _ _ => ?_⟩
      simp [isWordChar, delimiters d (List.mem_of_getLast? isLast)]
  | phrase => exact absurd rfl noPhrase
  | word inside ends =>
      refine ⟨List.cons_ne_nil _ _, fun d e _ first isWord => ?_⟩
      rw [ends e first] at isWord
      cases isWord

/-- Behind a piece that is no phrase, a word or number may start. -/
theorem Fresh.behind
    {kind : LexemeKind}
    {before own after : List Char}
    (fresh : Fresh before (own ++ after))
    (isPiece : IsPiece kind own after)
    (noPhrase : kind ≠ .phrase) :
    Fresh (before ++ own) after := by
  by_cases isNumber : kind = .number
  · subst isNumber
    cases isPiece with
    | number marked digit stops =>
        exact .inr ⟨before, _, rfl, .intro marked (fresh.endsOutsideWord rfl digit) digit stops⟩
  · obtain ⟨nonempty, apart⟩ := isPiece.apart isNumber noPhrase
    refine .inl fun c d isLast first isWord => apart c d ?_ first isWord
    rwa [List.getLast?_append_of_ne_nil _ nonempty] at isLast

/-! ## Pieces that count -/

/-- The words that take what follows them up to a semicolon as one text. -/
def commandWords : List String :=
  ["CALL", "EXPLAIN", "OPTIMIZE", "PREPARE", "VACUUM", "EXECUTE", "FETCH", "SHOW", "RENAME"]

/-- Where a piece that counts comes from: it lies in the text, or it is made of the pieces behind a
command. -/
inductive Origin (source : List Char) : Lexeme → Prop
  | own {kind : LexemeKind} {before own after : List Char}
      (split : source = before ++ (own ++ after)) (isPiece : IsPiece kind own after)
      (fresh : Fresh before (own ++ after)) :
      Origin source ⟨kind, before.length, own⟩
  | hint (start : Nat) (text : List Char) : Origin source ⟨.hint, start, text⟩
  | arguments {before word inside last after : List Char}
      (split : source = (before ++ (word ++ inside)) ++ (last ++ after))
      (isCommand : ∃ command ∈ commandWords, upperWord word = command.toList)
      (closed : ∀ c, after.head? = some c → c = ';')
      (literal : last.head? = some '\'' →
        ∃ content : List Char, last = '\'' :: (doubled '\'' content ++ ['\''])) :
      Origin source ⟨.quotedText (String.ofList (Text.trimChars (inside ++ last))),
        (before ++ (word ++ inside)).length, Text.trimChars (inside ++ last)⟩

theorem Lie.head?_eq_of_isSymbol
    {before text : List Char}
    {pieces : List Lexeme}
    (lie : Lie before pieces text)
    {mark : Char}
    (first : ∀ piece, pieces.head? = some piece → piece.isSymbol mark = true)
    {c : Char}
    (isHead : text.head? = some c) :
    c = mark := by
  cases lie with
  | nil => cases isHead
  | cons isPiece others =>
      have symbol := first _ rfl
      simp only [Lexeme.isSymbol, Bool.and_eq_true, beq_iff_eq] at symbol
      rw [symbol.2] at isHead
      exact (Option.some.inj isHead).symm

/-- In front of a mark that is no character of words, anything may stand. -/
theorem Lie.fresh_of_isSymbol
    {before text : List Char}
    {pieces : List Lexeme}
    (lie : Lie before pieces text)
    {mark : Char}
    (first : ∀ piece, pieces.head? = some piece → piece.isSymbol mark = true)
    (noWord : isWordChar mark = false) :
    Fresh before text := by
  refine .inl fun c d _ isHead isWord => ?_
  rw [lie.head?_eq_of_isSymbol first isHead, noWord] at isWord
  cases isWord

theorem exists_command_of_isCommand
    {piece : Lexeme}
    (isCommand : piece.isCommand = true) :
    ∃ command ∈ commandWords, upperWord piece.text = command.toList := by
  simp only [Lexeme.isCommand, Lexeme.spellsOneOf, Bool.and_eq_true, List.any_eq_true,
    beq_iff_eq] at isCommand
  obtain ⟨_, command, member, spelled⟩ := isCommand
  exact ⟨command, member, spelled.symm⟩

/-- The text of arguments is that of all their pieces, and stands where the last of them does. -/
theorem commandText?_eq_some
    {arguments : List Lexeme}
    {piece : Lexeme}
    (found : commandText? arguments = some piece) :
    ∃ front last, arguments = front ++ [last] ∧
      piece = ⟨.quotedText (String.ofList (Text.trimChars (arguments.flatMap Lexeme.text))),
        last.anchor, Text.trimChars (arguments.flatMap Lexeme.text)⟩ := by
  unfold commandText? at found
  dsimp only at found
  split at found
  · rename_i isLast
    cases found
    obtain ⟨front, split⟩ := List.getLast?_eq_some_iff.1 isLast
    exact ⟨front, _, split, rfl⟩
  · cases found

/-- The text of a command's arguments comes from the pieces up to a semicolon. -/
theorem origin_of_commandText?
    {source before word text : List Char}
    {arguments pieces : List Lexeme}
    (split : source = (before ++ word) ++ text)
    (isCommand : ∃ command ∈ commandWords, upperWord word = command.toList)
    (lie : Lie (before ++ word) (arguments ++ pieces) text)
    (first : ∀ piece, pieces.head? = some piece → piece.isSymbol ';' = true)
    {piece : Lexeme}
    (found : commandText? arguments = some piece) :
    Origin source piece := by
  obtain ⟨front, last, rfl, rfl⟩ := commandText?_eq_some found
  rw [List.append_assoc] at lie
  obtain ⟨behind, rfl, lieBehind⟩ := lie.split
  cases lieBehind with
  | @cons kind _ own after _ isPiece others =>
      have closed : ∀ c, after.head? = some c → c = ';' := fun c isHead =>
        others.head?_eq_of_isSymbol first isHead
      subst split
      simp only [List.flatMap_append, List.flatMap_singleton, Lexeme.anchor]
      split_ifs
      · -- A blank at the end counts from its end.
        have origin := @Origin.arguments _ before word (front.flatMap Lexeme.text ++ own) [] after
          rfl isCommand closed nofun
        simpa [Nat.add_assoc] using origin
      · have origin := @Origin.arguments _ before word (front.flatMap Lexeme.text) own after
          rfl isCommand closed isPiece.exists_quotedText
        simpa using origin

/-- Every piece that counts has an origin, if none of them is a phrase. -/
theorem origin_of_mem_significantAfter
    {source before text : List Char}
    {previous : Option Lexeme}
    {pieces : List Lexeme}
    (split : source = before ++ text)
    (lie : Lie before pieces text)
    (fresh : Fresh before text)
    (noPhrase : ∀ piece ∈ significantAfter previous pieces, piece.kind ≠ .phrase) :
    ∀ piece ∈ significantAfter previous pieces, Origin source piece := by
  fun_induction significantAfter previous pieces generalizing before text with
  | case1 => nofun
  | case2 previous piece rest isBlank inductionHypothesis =>
      cases lie with
      | cons isPiece others =>
          exact inductionHypothesis (by rw [split, List.append_assoc]) others
            (fresh.behind isPiece (by simp_all)) noPhrase
  | case3 previous piece rest opensHint isComment isHint hint =>
      rename_i inductionHypothesis
      obtain ⟨_, noPhraseBehind⟩ := List.forall_mem_cons.1 noPhrase
      cases lie with
      | cons isPiece others =>
          refine List.forall_mem_cons.2 ⟨.hint _ _, ?_⟩
          exact inductionHypothesis (by rw [split, List.append_assoc]) others
            (fresh.behind isPiece (by simp_all)) noPhraseBehind
  | case4 previous piece rest opensHint isComment noHint inductionHypothesis =>
      cases lie with
      | cons isPiece others =>
          exact inductionHypothesis (by rw [split, List.append_assoc]) others
            (fresh.behind isPiece (by simp_all)) noPhrase
  | case5 previous piece rest command noBlank noComment inductionHypothesis =>
      obtain ⟨_, noPhraseBehind⟩ := List.forall_mem_cons.1 noPhrase
      have isCommand := (Bool.and_eq_true_iff.1 command).1
      rw [← List.takeWhile_append_dropWhile (p := (!·.isSymbol ';')) (l := rest)] at lie
      have semicolon : ∀ piece, (rest.dropWhile (!·.isSymbol ';')).head? = some piece →
          piece.isSymbol ';' = true := fun piece isHead => by
        simpa using eq_false_of_head?_dropWhile isHead
      cases lie with
      | @cons kind _ own after _ isPiece others =>
          refine List.forall_mem_cons.2 ⟨.own split isPiece fresh, fun other member => ?_⟩
          rcases List.mem_append.1 member with inArguments | inOthers
          · exact origin_of_commandText? (by rw [split, List.append_assoc])
              (exists_command_of_isCommand isCommand) others semicolon
              (Option.mem_toList.1 inArguments)
          · obtain ⟨behind, rfl, lieBehind⟩ := others.split
            exact inductionHypothesis (by rw [split]; simp) lieBehind
              (lieBehind.fresh_of_isSymbol semicolon (by decide))
              (fun piece inBehind => noPhraseBehind piece (List.mem_append_right _ inBehind))
              other inOthers
  | case6 previous piece rest noCommand noBlank noComment inductionHypothesis =>
      obtain ⟨isNoPhrase, noPhraseBehind⟩ := List.forall_mem_cons.1 noPhrase
      cases lie with
      | cons isPiece others =>
          refine List.forall_mem_cons.2 ⟨.own split isPiece fresh, ?_⟩
          exact inductionHypothesis (by rw [split, List.append_assoc]) others
            (fresh.behind isPiece isNoPhrase) noPhraseBehind

end Query
end FlatTables
