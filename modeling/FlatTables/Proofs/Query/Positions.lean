import FlatTables.Proofs.Query.SourceText
import FlatTables.Proofs.Query.Trimming

/-!
# Where tokens stand

Every piece of a statement stands behind the one before it, and so do the tokens, which end with one
end token at the length of the text. There is one exception. The text of a command stands where the
last piece of its arguments does, but blanks count from their end: if the arguments end with a space
or a tab, their text stands at the semicolon or the end of the statement behind them, and the token
after it stands at the same position.
-/

namespace FlatTables
namespace Query

open Text (isBlank)

/-- The text of a command's arguments that end with a space or a tab. A text is divided behind the
arguments, where a semicolon stands or the text ends. -/
inductive Overshoots : (before after : List Char) → TokenForm → Prop
  | intro {before word inside after : List Char} {space : Char}
      (isCommand : ∃ command ∈ commandWords, upperWord word = command.toList)
      (isSpace : isSpacing space = true)
      (closed : ∀ c, after.head? = some c → c = ';') :
      Overshoots (before ++ (word ++ (inside ++ [space]))) after
        (.text (String.ofList (Text.trimChars (inside ++ [space]))))

/-- A token stands behind the arguments of its command instead of where they start. -/
def Token.Overshoots (source : List Char) (token : Token) : Prop :=
  Query.Overshoots (source.take token.position) (source.drop token.position) token.form

/-- A token stands behind another one, or at its position if that stands too far behind. -/
def Precedes (source : List Char) (first second : Token) : Prop :=
  first.position ≤ second.position ∧
    (first.position = second.position ↔ first.Overshoots source)

/-! ## Blanks and semicolons -/

/-- A semicolon is a piece of its own. -/
theorem cut_semicolon
    (marked : Bool)
    (rest : List Char) :
    cut marked ';' rest = .ok (.symbol, 0) := by
  have noOperator : operatorLength? (';' :: ([] ++ rest)) = none :=
    operatorLength?_eq_none (.inr (.inr (by decide))) rest
  have own : cut false ';' ([] ++ rest) = .ok (.symbol, 0) :=
    cut_symbol (by decide) (by decide) (fun comment => absurd comment.1 (by decide))
      (by rw [noOperator]; rfl)
  exact own

/-- A blank piece with a space or a tab holds nothing else. -/
theorem all_isSpacing_of_cut
    {marked : Bool}
    {c : Char}
    {rest : List Char}
    {extra : Nat}
    (isCut : cut marked c rest = .ok (.blank, extra))
    (spaced : (c :: rest.take extra).any isSpacing = true) :
    ∀ d ∈ c :: rest.take extra, isSpacing d = true := by
  obtain ⟨tail, after, _, _, isPiece⟩ := cutsPiece_cut marked .blank extra isCut
  have blank : isBlank c = true := by
    cases isPiece with
    | blank all => exact all c List.mem_cons_self
  cases spacing : isSpacing c with
  | true =>
      have run : extra = (rest.takeWhile isSpacing).length := by
        simp only [cut, spacing, if_true, Except.ok.injEq, Prod.mk.injEq, true_and] at isCut
        exact isCut.symm
      rw [run, ← List.prefix_iff_eq_take.1 (List.takeWhile_prefix isSpacing)]
      exact List.forall_mem_cons.2 ⟨spacing, fun d inside => List.mem_takeWhile_imp inside⟩
  | false =>
      have alone : extra = 0 := by
        simp only [cut, spacing, blank, if_true, Except.ok.injEq, Prod.mk.injEq, true_and,
          Bool.false_eq_true, if_false] at isCut
        exact isCut.symm
      simp [alone, spacing] at spaced

/-- What is told of a piece by how it is cut: a semicolon is a piece of its own, and so is a run of
spaces and tabs. -/
structure Lexeme.CutAlone (piece : Lexeme) : Prop where
  semicolon : piece.text.head? = some ';' → piece.isSymbol ';' = true
  spacing : piece.kind = .blank → piece.text.any isSpacing = true →
    ∀ c ∈ piece.text, isSpacing c = true

theorem cutAlone_of_lexemesFrom
    {marked : Bool}
    {position : Nat}
    {text : List Char}
    {pieces : List Lexeme}
    (cutEq : lexemesFrom marked position text = .ok pieces) :
    ∀ piece ∈ pieces, piece.CutAlone := by
  fun_induction lexemesFrom marked position text generalizing pieces with
  | case1 =>
      cases cutEq
      exact List.forall_mem_nil _
  | case2 => cases cutEq
  | case3 marked position c rest kind extra isCut =>
      rename_i inductionHypothesis
      obtain ⟨others, cutRest, rfl⟩ := map_eq_ok_iff.1 cutEq
      refine List.forall_mem_cons.2 ⟨⟨fun first => ?_, fun isBlank => ?_⟩,
        inductionHypothesis cutRest⟩
      · obtain rfl := Option.some.inj first
        rw [cut_semicolon] at isCut
        cases isCut
        rfl
      · cases isBlank
        exact all_isSpacing_of_cut isCut

/-! ## Pieces in order -/

/-- The text of a piece is that of a command, and stands behind its arguments. -/
def Lexeme.Overshoots (source : List Char) (piece : Lexeme) : Prop :=
  ∃ content, piece.kind = .quotedText content ∧
    Query.Overshoots (source.take piece.start) (source.drop piece.start) (.text content)

theorem Lexeme.not_overshoots
    {source : List Char}
    {piece : Lexeme}
    (noText : ∀ content, piece.kind ≠ .quotedText content) :
    ¬ piece.Overshoots source :=
  fun ⟨content, isText, _⟩ => noText content isText

/-- Where the next piece stands, or else the end of the text. -/
def nextStart (source : List Char) (pieces : List Lexeme) : Nat :=
  (pieces.head?.map Lexeme.start).getD source.length

/-- Every piece stands behind the one before it, or at its position if that overshoots. -/
inductive Ordered (source : List Char) : List Lexeme → Prop
  | nil : Ordered source []
  | cons {piece : Lexeme} {pieces : List Lexeme} (order : piece.start ≤ nextStart source pieces)
      (same : piece.start = nextStart source pieces ↔ piece.Overshoots source)
      (others : Ordered source pieces) :
      Ordered source (piece :: pieces)

section
variable {source : List Char} {piece : Lexeme} {pieces : List Lexeme}

theorem Ordered.before
    (earlier : piece.start < nextStart source pieces)
    (stands : ¬ piece.Overshoots source)
    (others : Ordered source pieces) :
    Ordered source (piece :: pieces) :=
  .cons (Nat.le_of_lt earlier)
    ⟨fun same => absurd same (Nat.ne_of_lt earlier), fun overshoots => absurd overshoots stands⟩
    others

theorem Ordered.start_lt
    (ordered : Ordered source (piece :: pieces))
    (stands : ¬ piece.Overshoots source) :
    piece.start < nextStart source pieces := by
  cases ordered with
  | cons order same => exact Nat.lt_of_le_of_ne order fun equal => stands (same.1 equal)

end

/-- A piece takes characters. -/
theorem IsPiece.length_pos
    {kind : LexemeKind}
    {own after : List Char}
    (isPiece : IsPiece kind own after) :
    0 < own.length := by
  cases isPiece <;> exact Nat.succ_pos _

theorem overshoots_iff
    (before after : List Char)
    (content : String)
    (text : List Char) :
    Lexeme.Overshoots (before ++ after) ⟨.quotedText content, before.length, text⟩ ↔
      Overshoots before after (.text content) := by
  simp [Lexeme.Overshoots]

/-- Nothing overshoots unless a semicolon or the end of the text follows. -/
theorem Overshoots.closed
    {before after : List Char}
    {form : TokenForm}
    (overshoots : Overshoots before after form) :
    ∀ c, after.head? = some c → c = ';' := by
  cases overshoots with
  | intro isCommand isSpace closed => exact closed

theorem Overshoots.isText
    {before after : List Char}
    {form : TokenForm}
    (overshoots : Overshoots before after form) :
    ∃ content, form = .text content := by
  cases overshoots with
  | intro => exact ⟨_, rfl⟩

/-- A piece that lies in the text does not overshoot. -/
theorem IsPiece.not_overshoots
    {before own after : List Char}
    {kind : LexemeKind}
    (isPiece : IsPiece kind own after) :
    ¬ Lexeme.Overshoots (before ++ (own ++ after)) ⟨kind, before.length, own⟩ := by
  cases isPiece with
  | quotedText content =>
      intro overshoots
      have closed := ((overshoots_iff _ _ _ _).1 overshoots).closed
      exact absurd (closed '\'' rfl) (by decide)
  | _ => exact Lexeme.not_overshoots fun _ isText => by cases isText

/-- The next piece behind the arguments of a command is the semicolon at which they end. -/
theorem nextStart_significantAfter
    {before text : List Char}
    {pieces : List Lexeme}
    (lie : Lie before pieces text)
    (first : ∀ piece, pieces.head? = some piece → piece.isSymbol ';' = true)
    (previous : Option Lexeme) :
    nextStart (before ++ text) (significantAfter previous pieces) = before.length := by
  cases lie with
  | nil => simp [significantAfter, nextStart]
  | cons isPiece others =>
      have isSymbol := first _ rfl
      simp only [Lexeme.isSymbol, Bool.and_eq_true, beq_iff_eq] at isSymbol
      rw [significantAfter_counted (by simp [isSymbol.1]) (by simp [isSymbol.1])]
      split <;> rfl

/-- The text of a command stands where the last piece of its arguments does, unless it overshoots. -/
theorem anchor_of_last
    {before word inside own after : List Char}
    {kind : LexemeKind}
    (isCommand : ∃ command ∈ commandWords, upperWord word = command.toList)
    (isPiece : IsPiece kind own after)
    (closed : ∀ c, after.head? = some c → c = ';')
    {last : Lexeme}
    (isLast : last = ⟨kind, (before ++ (word ++ inside)).length, own⟩)
    (alone : last.CutAlone)
    (noSemicolon : last.isSymbol ';' = false) :
    (before ++ (word ++ inside)).length ≤ last.anchor ∧
      last.anchor ≤ (before ++ (word ++ (inside ++ own))).length ∧
      (last.anchor = (before ++ (word ++ (inside ++ own))).length ↔
        Lexeme.Overshoots ((before ++ (word ++ (inside ++ own))) ++ after)
          ⟨.quotedText (String.ofList (Text.trimChars (inside ++ own))), last.anchor,
            Text.trimChars (inside ++ own)⟩) := by
  have taken := isPiece.length_pos
  have longer : (before ++ (word ++ (inside ++ own))).length =
      (before ++ (word ++ inside)).length + own.length := by
    simp only [List.length_append, Nat.add_assoc]
  subst isLast
  simp only [Lexeme.anchor]
  split_ifs with spaced
  · obtain ⟨hasSpace, isBlank⟩ := Bool.and_eq_true_iff.1 spaced
    have spaces := alone.spacing (beq_iff_eq.1 isBlank) hasSpace
    obtain rfl | ⟨inner, space, rfl⟩ := own.eq_nil_or_concat'
    · cases taken
    refine ⟨Nat.le_add_right _ _, Nat.le_of_eq longer.symm, fun _ => ?_, fun _ => longer.symm⟩
    rw [← longer, overshoots_iff, ← List.append_assoc inside]
    exact .intro isCommand (spaces space (by simp)) closed
  · refine ⟨Nat.le_refl _, by omega, fun same => by omega, fun overshoots => ?_⟩
    have whole : (before ++ (word ++ (inside ++ own))) ++ after =
        (before ++ (word ++ inside)) ++ (own ++ after) := by
      simp only [List.append_assoc]
    rw [whole, overshoots_iff] at overshoots
    obtain ⟨c, rest, rfl⟩ := List.exists_cons_of_length_pos taken
    obtain rfl := overshoots.closed c rfl
    rw [alone.semicolon rfl] at noSemicolon
    cases noSemicolon

theorem start_of_commandText?
    {before word text : List Char}
    {arguments pieces : List Lexeme}
    (isCommand : ∃ command ∈ commandWords, upperWord word = command.toList)
    (lie : Lie (before ++ word) (arguments ++ pieces) text)
    (first : ∀ piece, pieces.head? = some piece → piece.isSymbol ';' = true)
    (inside : ∀ piece ∈ arguments, piece.isSymbol ';' = false ∧ piece.CutAlone)
    {piece : Lexeme}
    (found : commandText? arguments = some piece) :
    (before ++ word).length ≤ piece.start ∧
      piece.start ≤ ((before ++ word) ++ arguments.flatMap Lexeme.text).length ∧
      (piece.start = ((before ++ word) ++ arguments.flatMap Lexeme.text).length ↔
        piece.Overshoots ((before ++ word) ++ text)) := by
  obtain ⟨front, last, rfl, rfl⟩ := commandText?_eq_some found
  obtain ⟨noSemicolon, alone⟩ := inside last (by simp)
  rw [List.append_assoc] at lie
  obtain ⟨behind, rfl, lieBehind⟩ := lie.split
  cases lieBehind with
  | @cons kind _ own after _ isPiece others =>
      have closed : ∀ c, after.head? = some c → c = ';' := fun c isHead =>
        others.head?_eq_of_isSymbol first isHead
      simp only [List.append_assoc] at alone noSemicolon ⊢
      have placed := anchor_of_last isCommand isPiece closed rfl alone noSemicolon
      simp only [List.append_assoc] at placed
      simp only [List.flatMap_append, List.flatMap_singleton]
      refine ⟨Nat.le_trans ?_ placed.1, placed.2⟩
      simp

/-- Pieces are in order and stand behind the part that comes before the text. -/
structure StandBehind (before text : List Char) (pieces : List Lexeme) : Prop where
  later : before.length ≤ nextStart (before ++ text) pieces
  ordered : Ordered (before ++ text) pieces

section
variable
  {before own after : List Char}
  {pieces : List Lexeme}
  (behind : StandBehind (before ++ own) after pieces)
include behind

theorem StandBehind.skip : StandBehind before (own ++ after) pieces := by
  obtain ⟨later, ordered⟩ := behind
  rw [List.append_assoc] at later ordered
  refine ⟨Nat.le_trans ?_ later, ordered⟩
  simp

theorem StandBehind.cons
    {kind : LexemeKind}
    (nonempty : 0 < own.length)
    (stands : ¬ Lexeme.Overshoots (before ++ (own ++ after)) ⟨kind, before.length, own⟩) :
    StandBehind before (own ++ after) (⟨kind, before.length, own⟩ :: pieces) := by
  obtain ⟨later, ordered⟩ := behind
  rw [List.append_assoc] at later ordered
  refine ⟨Nat.le_refl _, .before (Nat.lt_of_lt_of_le ?_ later) stands ordered⟩
  simpa using nonempty

end

/-- The pieces that count stand behind what comes before the text. -/
theorem standBehind_significantAfter
    {before text : List Char}
    {previous : Option Lexeme}
    {pieces : List Lexeme}
    (lie : Lie before pieces text)
    (alone : ∀ piece ∈ pieces, piece.CutAlone) :
    StandBehind before text (significantAfter previous pieces) := by
  fun_induction significantAfter previous pieces generalizing before text with
  | case1 =>
      cases lie
      exact ⟨by simp [nextStart], .nil⟩
  | case2 previous piece rest isBlank inductionHypothesis =>
      cases lie with
      | cons isPiece others =>
          exact (inductionHypothesis others (List.forall_mem_cons.1 alone).2).skip
  | case3 previous piece rest opensHint isComment isHint hint =>
      rename_i inductionHypothesis
      cases lie with
      | cons isPiece others =>
          exact (inductionHypothesis others (List.forall_mem_cons.1 alone).2).cons
            isPiece.length_pos (Lexeme.not_overshoots fun _ isText => by cases isText)
  | case4 previous piece rest opensHint isComment noHint inductionHypothesis =>
      cases lie with
      | cons isPiece others =>
          exact (inductionHypothesis others (List.forall_mem_cons.1 alone).2).skip
  | case5 previous piece rest command noBlank noComment inductionHypothesis =>
      have isCommand := (Bool.and_eq_true_iff.1 command).1
      have aloneBehind := (List.forall_mem_cons.1 alone).2
      have semicolon : ∀ piece, (rest.dropWhile (!·.isSymbol ';')).head? = some piece →
          piece.isSymbol ';' = true := fun piece isHead => by
        simpa using eq_false_of_head?_dropWhile isHead
      have inside : ∀ piece ∈ rest.takeWhile (!·.isSymbol ';'),
          piece.isSymbol ';' = false ∧ piece.CutAlone := fun piece member =>
        ⟨by simpa using List.mem_takeWhile_imp member,
          aloneBehind piece ((List.takeWhile_prefix _).subset member)⟩
      rw [← List.takeWhile_append_dropWhile (p := (!·.isSymbol ';')) (l := rest)] at lie
      cases lie with
      | @cons kind _ own after _ isPiece others =>
          refine StandBehind.cons ?_ isPiece.length_pos isPiece.not_overshoots
          obtain ⟨behind, split, lieBehind⟩ := others.split
          have standsBehind := inductionHypothesis lieBehind fun piece member =>
            aloneBehind piece ((List.dropWhile_suffix _).subset member)
          cases found : commandText? (rest.takeWhile (!·.isSymbol ';')) with
          | none =>
              rw [split]
              exact standsBehind.skip
          | some text =>
              obtain ⟨later, within, same⟩ := start_of_commandText?
                (exists_command_of_isCommand isCommand) others semicolon inside found
              have next := nextStart_significantAfter lieBehind semicolon
                (some ⟨kind, before.length, own⟩)
              have ordered := standsBehind.ordered
              rw [List.append_assoc (before ++ own), ← split] at next ordered
              rw [← next] at within same
              exact ⟨later, .cons within same ordered⟩
  | case6 previous piece rest noCommand noBlank noComment inductionHypothesis =>
      cases lie with
      | cons isPiece others =>
          exact (inductionHypothesis others (List.forall_mem_cons.1 alone).2).cons
            isPiece.length_pos isPiece.not_overshoots

/-! ## Signs and tokens -/

/-- A number with its sign stands where the sign does. -/
theorem nextStart_joinSigns
    (source : List Char)
    (pieces : List Lexeme) :
    nextStart source (joinSigns pieces) = nextStart source pieces := by
  fun_cases joinSigns pieces <;> rfl

theorem Ordered.joinSigns
    {source : List Char}
    {pieces : List Lexeme}
    (ordered : Ordered source pieces) :
    Ordered source (joinSigns pieces) := by
  induction pieces using joinSigns.induct with
  | case1 lexeme next rest signed inductionHypothesis =>
      obtain ⟨isSign, isNumber⟩ := Bool.and_eq_true_iff.1 signed
      have signStands : ¬ lexeme.Overshoots source := by
        refine Lexeme.not_overshoots fun content isText => ?_
        simp [Lexeme.isSign, Lexeme.isSymbol, isText] at isSign
      have numberStands : ¬ next.Overshoots source := by
        refine Lexeme.not_overshoots fun content isText => ?_
        simp [isText] at isNumber
      have first := ordered.start_lt signStands
      cases ordered with
      | cons _ _ behindSign =>
          have second := behindSign.start_lt numberStands
          cases behindSign with
          | cons _ _ others =>
              rw [Query.joinSigns, if_pos signed]
              have joinedStands : ¬ Lexeme.Overshoots source
                  ⟨.number, lexeme.start, lexeme.text ++ next.text⟩ :=
                Lexeme.not_overshoots fun content isText => by cases isText
              refine .before ?_ joinedStands (inductionHypothesis others)
              rw [nextStart_joinSigns]
              exact Nat.lt_trans first second
  | case2 lexeme next rest unsigned inductionHypothesis =>
      rw [Query.joinSigns, if_neg unsigned]
      cases ordered with
      | cons order same others =>
          rw [← nextStart_joinSigns] at order same
          exact .cons order same (inductionHypothesis others)
  | case3 lexemes noPair =>
      rw [Query.joinSigns]
      · exact ordered
      · exact noPair

/-- Symbols are no texts, and no ends. -/
theorem symbolForm?_ne
    {spelling : List Char}
    {form : TokenForm}
    (isForm : symbolForm? spelling = some form) :
    form ≠ .finish ∧ ∀ content, form ≠ .text content := by
  unfold symbolForm? at isForm
  split at isForm
  case h_7 =>
    obtain ⟨op, _, rfl⟩ := Option.map_eq_some_iff.1 isForm
    simp
  all_goals
    cases isForm
    simp

/-- Only quoted texts and commands have texts, and no piece is the end. -/
theorem form?_text_or_finish
    {piece : Lexeme}
    {form : TokenForm}
    (isForm : piece.form? = some form) :
    form ≠ .finish ∧ ∀ content, form = .text content → piece.kind = .quotedText content := by
  obtain ⟨kind, start, text⟩ := piece
  cases kind with
  | blank | comment | hint | phrase => cases isForm
  | number | quotedName =>
      cases isForm
      simp
  | quotedText content =>
      cases isForm
      simp
  | nationalText content =>
      obtain rfl := plainName?_eq_some isForm
      simp
  | symbol =>
      obtain ⟨noFinish, noText⟩ := symbolForm?_ne isForm
      exact ⟨noFinish, fun content isText => absurd isText (noText content)⟩
  | word =>
      simp only [Lexeme.form?] at isForm
      split at isForm
      · cases isForm
        simp
      · obtain rfl := plainName?_eq_some isForm
        simp

theorem exists_of_tokensOf_cons
    {source : List Char}
    {piece : Lexeme}
    {pieces : List Lexeme}
    {tokens : List Token}
    (read : tokensOf source (piece :: pieces) = .ok tokens) :
    ∃ form rest, piece.form? = some form ∧ tokensOf source pieces = .ok rest ∧
      tokens = ⟨form, piece.start⟩ :: rest := by
  rw [tokensOf, Lexeme.token] at read
  cases isForm : piece.form? with
  | none => simp [isForm] at read
  | some form =>
      simp only [isForm] at read
      obtain ⟨rest, readRest, rfl⟩ := map_eq_ok_iff.1 read
      exact ⟨form, rest, rfl, readRest, rfl⟩

/-- A token overshoots if its piece does. -/
theorem token_overshoots_iff
    {source : List Char}
    {piece : Lexeme}
    {form : TokenForm}
    (isForm : piece.form? = some form) :
    Token.Overshoots source ⟨form, piece.start⟩ ↔ piece.Overshoots source := by
  constructor
  · intro overshoots
    obtain ⟨content, rfl⟩ := Overshoots.isText overshoots
    exact ⟨content, (form?_text_or_finish isForm).2 content rfl, overshoots⟩
  · rintro ⟨content, isText, overshoots⟩
    have own : piece.form? = some (.text content) := by simp only [Lexeme.form?, isText]
    obtain rfl := Option.some.inj (own.symm.trans isForm)
    exact overshoots

/-- The tokens of pieces in order are in order, and the first stands where the first piece does. -/
theorem Ordered.isChain_of_tokensOf
    {source : List Char}
    {pieces : List Lexeme}
    (ordered : Ordered source pieces)
    {tokens : List Token}
    (read : tokensOf source pieces = .ok tokens) :
    (∀ token ∈ tokens.head?, token.position = nextStart source pieces) ∧
      tokens.IsChain (Precedes source) := by
  induction ordered generalizing tokens with
  | nil =>
      cases read
      refine ⟨?_, .singleton _⟩
      rintro _ ⟨⟩
      rfl
  | @cons piece pieces order same others inductionHypothesis =>
      obtain ⟨form, rest, isForm, readRest, rfl⟩ := exists_of_tokensOf_cons read
      obtain ⟨next, chain⟩ := inductionHypothesis readRest
      refine ⟨?_, List.isChain_cons.2 ⟨fun token isHead => ?_, chain⟩⟩
      · rintro _ ⟨⟩
        rfl
      · rw [Precedes, next token isHead, token_overshoots_iff isForm]
        exact ⟨order, same⟩

/-- There is one end among the tokens of pieces. It is the last and stands at the length of the
text. -/
theorem exists_body_of_tokensOf
    {source : List Char}
    {pieces : List Lexeme}
    {tokens : List Token}
    (read : tokensOf source pieces = .ok tokens) :
    ∃ body, tokens = body ++ [⟨.finish, source.length⟩] ∧ ∀ token ∈ body, token.form ≠ .finish := by
  induction pieces generalizing tokens with
  | nil =>
      cases read
      exact ⟨[], rfl, List.forall_mem_nil _⟩
  | cons piece pieces inductionHypothesis =>
      obtain ⟨form, rest, isForm, readRest, rfl⟩ := exists_of_tokensOf_cons read
      obtain ⟨body, rfl, noFinish⟩ := inductionHypothesis readRest
      exact ⟨_ :: body, rfl,
        List.forall_mem_cons.2 ⟨(form?_text_or_finish isForm).1, noFinish⟩⟩

/-- The tokens of a text are in order. -/
theorem isChain_of_tokenize
    {sql : String}
    {tokens : List Token}
    (read : tokenize sql = .ok tokens) :
    tokens.IsChain (Precedes sql.toList) := by
  unfold tokenize at read
  dsimp only at read
  split at read
  · cases read
  rename_i pieces cutEq
  have placed := @standBehind_significantAfter [] sql.toList none pieces
    (lie_of_lexemesFrom cutEq) (cutAlone_of_lexemesFrom cutEq)
  exact (placed.ordered.joinSigns.isChain_of_tokensOf read).2

theorem exists_body_of_tokenize
    {sql : String}
    {tokens : List Token}
    (read : tokenize sql = .ok tokens) :
    ∃ body, tokens = body ++ [⟨.finish, sql.length⟩] ∧ ∀ token ∈ body, token.form ≠ .finish := by
  unfold tokenize at read
  dsimp only at read
  split at read
  · cases read
  · exact exists_body_of_tokensOf read

/-- Tokens in order stand at different positions exactly if none of them overshoots. -/
theorem pairwise_lt_iff
    {source : List Char}
    {tokens : List Token}
    (order : tokens.IsChain (Precedes source))
    (last : ∀ token ∈ tokens.getLast?, ¬ token.Overshoots source) :
    (tokens.Pairwise fun first second => first.position < second.position) ↔
      ∀ token ∈ tokens, ¬ token.Overshoots source := by
  have transitive : IsTrans Token fun first second => first.position < second.position :=
    ⟨fun _ _ _ => Nat.lt_trans⟩
  refine List.isChain_iff_pairwise.symm.trans ?_
  induction tokens with
  | nil => simp
  | cons first rest inductionHypothesis =>
      cases rest with
      | nil => simpa using last
      | cons second rest =>
          obtain ⟨⟨ordered, same⟩, others⟩ := List.isChain_cons_cons.1 order
          have here : first.position < second.position ↔ ¬ first.Overshoots source := by
            rw [← same]
            omega
          refine (List.isChain_cons_cons.trans ?_).trans List.forall_mem_cons.symm
          exact and_congr here (inductionHypothesis others last)

end Query
end FlatTables
