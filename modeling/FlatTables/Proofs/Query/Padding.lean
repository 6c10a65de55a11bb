import FlatTables.Proofs.Except
import FlatTables.Proofs.Query.Cutting
import FlatTables.Proofs.Text.Padding

/-!
# Cutting padded statements

Blanks around a statement make pieces of their own, with one exception: the last piece takes them
along if it is a blank or a comment up to the end of a line. No other piece is cut differently, and
what is not closed stays so.
-/

namespace FlatTables
namespace Query

open Text (IsPadding isBlank notBlank_of_any)

/-! ## Lengths -/

theorem numberLength_le
    (point : Bool)
    (exponent : ExponentState)
    (text : List Char) :
    numberLength point exponent text ≤ text.length := by
  induction text generalizing point exponent with
  | nil => exact Nat.le_refl 0
  | cons c rest inductionHypothesis =>
      unfold numberLength
      split_ifs
      · exact Nat.succ_le_succ (inductionHypothesis ..)
      · exact Nat.succ_le_succ (inductionHypothesis ..)
      · exact Nat.succ_le_succ (inductionHypothesis ..)
      · exact Nat.succ_le_succ (inductionHypothesis ..)
      · exact Nat.zero_le _

theorem quotedContent_le
    {quote : Char}
    {text content : List Char}
    {length : Nat}
    (closed : quotedContent quote text = .ok (content, length)) :
    length ≤ text.length := by
  fun_induction quotedContent quote text generalizing content length with
  | case1 => cases closed
  | case2 =>
      cases closed
      exact Nat.le_refl 1
  | case3 => cases closed
  | case4 tail nonempty inductionHypothesis =>
      obtain ⟨⟨shorter, own⟩, read, equal⟩ := map_eq_ok_iff.1 closed
      cases equal
      exact Nat.add_le_add_right (inductionHypothesis read) 2
  | case5 d tail unlike =>
      cases closed
      exact Nat.le_add_left 1 _
  | case6 c rest unlike inductionHypothesis =>
      obtain ⟨⟨shorter, own⟩, read, equal⟩ := map_eq_ok_iff.1 closed
      cases equal
      exact Nat.succ_le_succ (inductionHypothesis read)

theorem commentLength?_le
    {inner closing : List Char}
    {depth : Nat}
    {entered : Bool}
    {text : List Char}
    {length : Nat}
    (closed : commentLength? inner closing depth entered text = some length) :
    length ≤ text.length := by
  fun_induction commentLength? inner closing depth entered text generalizing length with
  | case1 => cases closed
  | case2 depth entered c rest opens inductionHypothesis =>
      obtain ⟨shorter, own, rfl⟩ := Option.map_eq_some_iff.1 closed
      have within := (List.isPrefixOf_iff_prefix.1 opens.2.1).length_le
      have := inductionHypothesis own
      rw [List.length_drop] at this
      omega
  | case3 entered c rest opens closes =>
      cases closed
      exact (List.isPrefixOf_iff_prefix.1 closes).length_le
  | case4 depth entered c rest opens closes deep inductionHypothesis =>
      obtain ⟨shorter, own, rfl⟩ := Option.map_eq_some_iff.1 closed
      exact Nat.succ_le_succ (inductionHypothesis own)
  | case5 depth entered c rest opens closes inductionHypothesis =>
      obtain ⟨shorter, own, rfl⟩ := Option.map_eq_some_iff.1 closed
      exact Nat.succ_le_succ (inductionHypothesis own)

theorem spellingLength?_le
    {spelling text : List Char}
    {length : Nat}
    (spelled : spellingLength? spelling text = some length) :
    length ≤ text.length := by
  fun_induction spellingLength? spelling text generalizing length with
  | case1 text =>
      cases spelled
      exact Nat.zero_le _
  | case2 => cases spelled
  | case3 spelling c text blank inductionHypothesis =>
      obtain ⟨shorter, own, rfl⟩ := Option.map_eq_some_iff.1 spelled
      have bound := inductionHypothesis own
      have whole :=
        congrArg List.length (List.takeWhile_append_dropWhile (p := isBlank) (l := text))
      rw [List.length_append] at whole
      rw [List.length_cons]
      omega
  | case4 => cases spelled
  | case5 s spelling c text notSpace same inductionHypothesis =>
      obtain ⟨shorter, own, rfl⟩ := Option.map_eq_some_iff.1 spelled
      exact Nat.succ_le_succ (inductionHypothesis own)
  | case6 => cases spelled

theorem isBlank_of_isSpacing
    {c : Char}
    (spacing : isSpacing c = true) :
    isBlank c = true := by
  by_contra notBlank
  rw [isSpacing_eq_false (Bool.eq_false_iff.2 notBlank)] at spacing
  cases spacing

section
variable
  {padding : List Char}
  (blank : IsPadding padding)
include blank

theorem endsToken_of_isPadding : EndsToken padding :=
  fun c first => .inl (blank c (List.mem_of_mem_head? first))

/-! ## Blanks behind a text -/

theorem numberLength_append
    (point : Bool)
    (exponent : ExponentState)
    (text : List Char) :
    numberLength point exponent (text ++ padding) = numberLength point exponent text := by
  induction text generalizing point exponent with
  | nil => exact (endsToken_of_isPadding blank).numberLength_eq_zero point exponent
  | cons c rest inductionHypothesis =>
      have digit : (rest ++ padding).head?.any Char.isDigit = rest.head?.any Char.isDigit := by
        cases rest with
        | cons d rest => rfl
        | nil =>
            cases padding with
            | nil => rfl
            | cons d rest =>
                have noWord : isWordChar d = false := by simp [isWordChar, blank d]
                simp [isDigit_eq_false noWord]
      simp only [List.cons_append, numberLength, inductionHypothesis, digit]

/-- No quote is found among blanks. -/
theorem quotedContent_isPadding
    {quote : Char}
    (notBlank : isBlank quote = false) :
    quotedContent quote padding = .error .quote := by
  induction padding with
  | nil => rfl
  | cons c rest inductionHypothesis =>
      have unlike : c ≠ quote := Text.ne_of_isBlank (blank c List.mem_cons_self) notBlank
      rw [quotedContent_cons_of_ne unlike,
        inductionHypothesis fun d member => blank d (List.mem_cons_of_mem c member)]
      rfl

/-- A quoted text that is closed has its content and length whether blanks follow or not; one that
is not closed is not closed by blanks. -/
theorem quotedContent_append
    {quote : Char}
    (notBlank : isBlank quote = false)
    (text : List Char) :
    (quotedContent quote (text ++ padding)).toOption = (quotedContent quote text).toOption := by
  have unquoted := quotedContent_isPadding blank notBlank
  fun_induction quotedContent quote text with
  | case1 => rw [List.nil_append, unquoted]
  | case2 =>
      cases padding with
      | nil => simp [quotedContent]
      | cons d rest =>
          have unlike : d ≠ quote := Text.ne_of_isBlank (blank d List.mem_cons_self) notBlank
          simp [quotedContent, unlike]
  | case3 =>
      cases padding with
      | nil => simp [quotedContent, Except.toOption]
      | cons d rest => simp [quotedContent, unquoted, Except.map, Except.toOption]
  | case4 tail nonempty inductionHypothesis =>
      have goesOn : tail ++ padding ≠ [] := List.append_ne_nil_of_left_ne_nil nonempty padding
      simp only [List.cons_append, quotedContent, if_true, goesOn, if_false, toOption_map,
        inductionHypothesis]
  | case5 d tail unlike => simp [quotedContent, unlike]
  | case6 c rest unlike inductionHypothesis =>
      rw [List.cons_append, quotedContent_cons_of_ne unlike, toOption_map, toOption_map,
        inductionHypothesis]

/-- No comment is closed among blanks. -/
theorem commentLength?_isPadding
    {inner closing : List Char}
    (innerNotBlank : ∀ c ∈ inner, isBlank c = false)
    (closingNotBlank : ∀ c ∈ closing, isBlank c = false)
    (nonempty : closing ≠ [])
    (depth : Nat)
    (entered : Bool) :
    commentLength? inner closing depth entered padding = none := by
  induction padding generalizing entered with
  | nil => rw [commentLength?]
  | cons c rest inductionHypothesis =>
      have opens : ¬ (entered = false ∧ inner.isPrefixOf (c :: rest) ∧ inner ≠ []) := by
        rintro ⟨_, opens, goesOn⟩
        rw [← List.nil_append (c :: rest), blank.isPrefixOf_append innerNotBlank] at opens
        exact goesOn (List.prefix_nil.1 (List.isPrefixOf_iff_prefix.1 opens))
      have closes : ¬ closing.isPrefixOf (c :: rest) := by
        intro closes
        rw [← List.nil_append (c :: rest), blank.isPrefixOf_append closingNotBlank] at closes
        exact nonempty (List.prefix_nil.1 (List.isPrefixOf_iff_prefix.1 closes))
      rw [commentLength?, dif_neg opens, if_neg closes,
        inductionHypothesis (fun d member => blank d (List.mem_cons_of_mem c member))]
      rfl

/-- A comment is closed where it is closed without the blanks behind it. -/
theorem commentLength?_append
    {inner closing : List Char}
    (innerNotBlank : ∀ c ∈ inner, isBlank c = false)
    (closingNotBlank : ∀ c ∈ closing, isBlank c = false)
    (nonempty : closing ≠ [])
    (depth : Nat)
    (entered : Bool)
    (text : List Char) :
    commentLength? inner closing depth entered (text ++ padding) =
      commentLength? inner closing depth entered text := by
  have opensAlike : ∀ own : List Char,
      inner.isPrefixOf (own ++ padding) = inner.isPrefixOf own :=
    blank.isPrefixOf_append innerNotBlank
  have closesAlike : ∀ own : List Char,
      closing.isPrefixOf (own ++ padding) = closing.isPrefixOf own :=
    blank.isPrefixOf_append closingNotBlank
  fun_induction commentLength? inner closing depth entered text with
  | case1 depth entered =>
      exact commentLength?_isPadding blank innerNotBlank closingNotBlank nonempty depth entered
  | case2 depth entered c rest opens inductionHypothesis =>
      have within := (List.isPrefixOf_iff_prefix.1 opens.2.1).length_le
      rw [List.cons_append, commentLength?, ← List.cons_append, opensAlike, dif_pos opens,
        List.drop_append_of_le_length within, inductionHypothesis]
  | case3 entered c rest opens closes =>
      rw [List.cons_append, commentLength?, ← List.cons_append, opensAlike, closesAlike,
        dif_neg opens, if_pos closes, if_pos rfl]
  | case4 depth entered c rest opens closes deep inductionHypothesis =>
      rw [List.cons_append, commentLength?, ← List.cons_append, opensAlike, closesAlike,
        dif_neg opens, if_pos closes, if_neg deep, inductionHypothesis]
  | case5 depth entered c rest opens closes inductionHypothesis =>
      rw [List.cons_append, commentLength?, ← List.cons_append, opensAlike, closesAlike,
        dif_neg opens, if_neg closes, inductionHypothesis]

/-- Only spaces of the spelling are blanks, in whatever case, and none is its last character. -/
structure EndsUnspaced (spelling : List Char) : Prop where
  apart : ∀ s ∈ spelling, s = ' ' ∨ ∀ c, isBlank c = true → s.toUpper ≠ c.toUpper
  last : spelling.getLast? ≠ some ' '

omit blank in
theorem EndsUnspaced.tail
    {s : Char}
    {rest : List Char}
    (unspaced : EndsUnspaced (s :: rest)) :
    EndsUnspaced rest := by
  refine ⟨fun t member => unspaced.apart t (List.mem_cons_of_mem s member), ?_⟩
  cases rest with
  | nil => exact nofun
  | cons next rest => simpa only [List.getLast?_cons_cons] using unspaced.last

/-- Blanks spell nothing. -/
theorem spellingLength?_isPadding
    {s : Char}
    {rest : List Char}
    (unspaced : EndsUnspaced (s :: rest)) :
    spellingLength? (s :: rest) padding = none := by
  cases padding with
  | nil => rfl
  | cons c padding =>
      have cBlank := blank c List.mem_cons_self
      by_cases space : s = ' '
      · cases rest with
        | nil => exact absurd (congrArg some space) unspaced.last
        | cons next rest =>
            have remaining : padding.dropWhile isBlank = [] :=
              IsPadding.dropWhile_isBlank fun d member => blank d (List.mem_cons_of_mem c member)
            simp [spellingLength?, space, cBlank, remaining]
      · have unlike := (unspaced.apart s List.mem_cons_self).resolve_left space c cBlank
        simp [spellingLength?, space, unlike]

/-- A spelling that ends with no blank is found in a text whether blanks follow or not. -/
theorem spellingLength?_append_padding
    {spelling : List Char}
    (unspaced : EndsUnspaced spelling)
    (text : List Char) :
    spellingLength? spelling (text ++ padding) = spellingLength? spelling text := by
  fun_induction spellingLength? spelling text with
  | case1 text => rw [spellingLength?]
  | case2 s rest => exact spellingLength?_isPadding blank unspaced
  | case3 rest c text cBlank inductionHypothesis =>
      cases rest with
      | nil => exact absurd rfl unspaced.last
      | cons next rest =>
          rw [List.cons_append, spellingLength?, if_pos rfl, if_pos cBlank,
            blank.dropWhile_isBlank_append]
          split
          · rename_i empty
            rw [empty, spellingLength?]
            rfl
          · rename_i nonempty
            have stops : (text ++ padding).takeWhile isBlank = text.takeWhile isBlank := by
              rw [List.takeWhile_append, if_neg]
              intro whole
              exact nonempty (List.dropWhile_eq_nil_iff.2 (List.takeWhile_eq_self_iff.1
                ((List.takeWhile_prefix isBlank).eq_of_length whole)))
            rw [inductionHypothesis unspaced.tail, stops]
  | case4 rest c text notBlank =>
      rw [List.cons_append, spellingLength?, if_pos rfl, if_neg notBlank]
  | case5 s rest c text notSpace same inductionHypothesis =>
      rw [List.cons_append, spellingLength?, if_neg notSpace, if_pos same,
        inductionHypothesis unspaced.tail]
  | case6 s rest c text notSpace unlike =>
      rw [List.cons_append, spellingLength?, if_neg notSpace, if_neg unlike]

omit blank in
theorem endsUnspaced_of_mem_phrases
    {phrase : String}
    (member : phrase ∈ phrases) :
    EndsUnspaced phrase.toList := by
  have all : phrases.all (fun phrase => phrase.toList.all (fun s => s == ' ' || !isBlank s) &&
      phrase.toList.getLast? != some ' ') = true := by
    decide
  have own := List.all_eq_true.1 all phrase member
  simp only [Bool.and_eq_true, List.all_eq_true, Bool.or_eq_true, beq_iff_eq, bne_iff_ne,
    Bool.not_eq_true', ne_eq] at own
  refine ⟨fun s inPhrase => (own.1 s inPhrase).imp_right fun notBlank c cBlank same => ?_, own.2⟩
  have noWord : isWordChar c = false := by simp [isWordChar, cBlank]
  obtain rfl := eq_of_toUpper_eq noWord same.symm
  rw [cBlank] at notBlank
  cases notBlank

theorem phraseLength?_append (text : List Char) :
    phraseLength? (text ++ padding) = phraseLength? text := by
  have boundary : ∀ own : List Char, isBoundary (own ++ padding) = isBoundary own := by
    intro own
    cases own with
    | cons c rest => rfl
    | nil =>
        cases padding with
        | nil => rfl
        | cons c rest => simp [isBoundary, blank c]
  refine findSome?_congr fun phrase member => ?_
  rw [spellingLength?_append_padding blank (endsUnspaced_of_mem_phrases member)]
  cases spelled : spellingLength? phrase.toList text with
  | none => rfl
  | some length =>
      rw [Option.filter_some, Option.filter_some,
        List.drop_append_of_le_length (spellingLength?_le spelled), boundary]

theorem cutPlain_append
    (c : Char)
    (rest : List Char) :
    cutPlain c (rest ++ padding) = cutPlain c rest ∧ (cutPlain c rest).2 ≤ rest.length := by
  have operators : operatorLength? (c :: (rest ++ padding)) = operatorLength? (c :: rest) :=
    operatorLength?_append (fun d first => .inl (blank d (List.mem_of_mem_head? first))) (c :: rest)
  have phrases : phraseLength? (c :: (rest ++ padding)) = phraseLength? (c :: rest) :=
    phraseLength?_append blank (c :: rest)
  have words : wordLength (rest ++ padding) = wordLength rest :=
    congrArg List.length (blank.takeWhile_append (fun d dBlank => by simp [dBlank]) rest)
  unfold cutPlain
  rw [operators, phrases, words]
  refine ⟨rfl, ?_⟩
  cases operator : operatorLength? (c :: rest) with
  | some length =>
      obtain ⟨own, _, spelled⟩ := List.exists_of_findSome?_eq_some operator
      have := spellingLength?_le spelled
      rw [List.length_cons] at this
      exact Nat.sub_le_of_le_add this
  | none =>
      cases phrase : phraseLength? (c :: rest) with
      | some length =>
          obtain ⟨own, _, spelled⟩ := List.exists_of_findSome?_eq_some phrase
          have := spellingLength?_le (Option.filter_eq_some_iff.1 spelled).1
          rw [List.length_cons] at this
          exact Nat.sub_le_of_le_add this
      | none =>
          dsimp only
          split
          · exact Nat.zero_le _
          · exact (List.takeWhile_prefix _).length_le

end

/-! ## Cuts of padded texts -/

/-- How the piece at the front of a text compares with that of the padded text. Only a blank or a
comment at the very end takes blanks behind the text along. -/
inductive CutAlike (c : Char) (rest padding : List Char) :
    Except UnclosedFault Cut → Except UnclosedFault Cut → Prop
  | unclosed (fault other : UnclosedFault) : CutAlike c rest padding (.error fault) (.error other)
  | same (kind : LexemeKind) {extra : Nat} (within : extra ≤ rest.length) :
      CutAlike c rest padding (.ok (kind, extra)) (.ok (kind, extra))
  | blank (more : Nat) (blank : IsPadding (c :: rest)) :
      CutAlike c rest padding (.ok (.blank, rest.length)) (.ok (.blank, rest.length + more))
  | comment (more : Nat) :
      CutAlike c rest padding (.ok (.comment false, rest.length))
        (.ok (.comment false, rest.length + more))

/-- Both texts are cut by the same case. -/
theorem CutAlike.ite
    {c : Char}
    {rest padding : List Char}
    {condition : Prop}
    [Decidable condition]
    {own other ownElse otherElse : Except UnclosedFault Cut}
    (holds : condition → CutAlike c rest padding own other)
    (fails : CutAlike c rest padding ownElse otherElse) :
    CutAlike c rest padding (if condition then own else ownElse)
      (if condition then other else otherElse) := by
  split
  · exact holds ‹_›
  · exact fails

section
variable
  {padding : List Char}
  (blank : IsPadding padding)
include blank

theorem cutQuoted_append
    (c : Char)
    (kind : String → LexemeKind)
    {quote : Char}
    (notBlank : isBlank quote = false)
    {opening : Nat}
    {rest : List Char}
    (opened : opening ≤ rest.length) :
    CutAlike c rest padding (cutQuoted kind quote opening rest)
      (cutQuoted kind quote opening (rest ++ padding)) := by
  have whole := quotedContent_append blank notBlank (rest.drop opening)
  have unquoted := quotedContent_isPadding blank notBlank
  unfold cutQuoted quotedFrom
  rw [List.drop_append_of_le_length opened]
  by_cases lone : rest.drop opening = []
  · rw [if_pos lone, lone, List.nil_append, unquoted]
    split
    · exact .unclosed _ _
    · exact .unclosed _ _
  · rw [if_neg lone, if_neg (List.append_ne_nil_of_left_ne_nil lone padding)]
    cases read : quotedContent quote (rest.drop opening) with
    | error fault =>
        cases padded : quotedContent quote (rest.drop opening ++ padding) with
        | error other => exact .unclosed _ _
        | ok other => rw [read, padded] at whole; cases whole
    | ok own =>
        cases padded : quotedContent quote (rest.drop opening ++ padding) with
        | error other => rw [read, padded] at whole; cases whole
        | ok other =>
            rw [read, padded] at whole
            cases whole
            refine .same _ ?_
            have := quotedContent_le read
            rw [List.length_drop] at this
            exact Nat.add_le_of_le_sub' opened this

theorem cutComment_append
    (c : Char)
    (opensHint : Bool)
    {inner closing : List Char}
    (innerNotBlank : ∀ c ∈ inner, isBlank c = false)
    (closingNotBlank : ∀ c ∈ closing, isBlank c = false)
    (nonempty : closing ≠ [])
    {opening : Nat}
    {rest : List Char}
    (opened : opening ≤ rest.length) :
    CutAlike c rest padding (cutComment opensHint opening inner closing rest)
      (cutComment opensHint opening inner closing (rest ++ padding)) := by
  unfold cutComment
  rw [List.drop_append_of_le_length opened,
    commentLength?_append blank innerNotBlank closingNotBlank nonempty]
  cases closed : commentLength? inner closing 0 true (rest.drop opening) with
  | none => exact .unclosed _ _
  | some length =>
      refine .same _ ?_
      have := commentLength?_le closed
      rw [List.length_drop] at this
      exact Nat.add_le_of_le_sub' opened this

/-- The piece at the front of a padded text is that of the text, apart from blanks that a blank or
comment at the very end takes along. -/
theorem cut_append
    (marked : Bool)
    (c : Char)
    (rest : List Char) :
    CutAlike c rest padding (cut marked c rest) (cut marked c (rest ++ padding)) := by
  have head : ∀ d, isBlank d = false →
      ((rest ++ padding).head? = some d ↔ rest.head? = some d) := fun d notBlank =>
    blank.head?_append_iff notBlank rest
  have opens : ∀ d, rest.head? = some d → 1 ≤ rest.length := by
    intro d first
    cases rest with
    | nil => cases first
    | cons d rest => exact Nat.le_add_left 1 _
  have front : (rest ++ padding).take 2 = ['*', '+'] ↔ rest.take 2 = ['*', '+'] :=
    blank.take_append_iff (notBlank_of_any (by decide : ['*', '+'].any isBlank = false)) rest
  unfold cut
  simp only [head '\'' (by decide), head '-' (by decide), head '*' (by decide),
    head '#' (by decide), front, numberLength_append blank, (cutPlain_append blank c rest).1]
  refine .ite (fun spacing => ?_) <| .ite (fun _ => .same _ (Nat.zero_le _)) <|
    .ite (fun _ => .same _ (numberLength_le ..)) <|
    .ite (fun _ => cutQuoted_append blank c _ (by decide) (Nat.zero_le _)) <|
    .ite (fun _ => cutQuoted_append blank c _ (by decide) (Nat.zero_le _)) <|
    .ite (fun national => cutQuoted_append blank c _ (by decide) (opens _ national.2)) <|
    .ite (fun _ => ?_) <|
    .ite (fun hint => cutComment_append blank c _ (notBlank_of_any (by decide))
      (notBlank_of_any (by decide)) (by decide) ?_) <|
    .ite (fun comment => cutComment_append blank c _ (notBlank_of_any (by decide))
      (notBlank_of_any (by decide)) (by decide) (opens _ comment.2)) <|
    .ite (fun brace => cutComment_append blank c _ (notBlank_of_any (by decide))
      (notBlank_of_any (by decide)) (by decide) (opens _ brace.2)) <|
    .same _ (cutPlain_append blank c rest).2
  · -- A run of spaces reaches the blanks behind the text only if nothing else is left of it.
    rw [List.takeWhile_append]
    split
    · rename_i whole
      have spaces := List.takeWhile_eq_self_iff.1
        ((List.takeWhile_prefix isSpacing).eq_of_length whole)
      rw [whole, List.length_append]
      exact .blank _ (List.forall_mem_cons.2 ⟨isBlank_of_isSpacing spacing,
        fun d member => isBlank_of_isSpacing (spaces d member)⟩)
    · exact .same _ (List.takeWhile_prefix _).length_le
  · rw [List.takeWhile_append]
    split
    · rename_i whole
      rw [whole, List.length_append]
      exact .comment _
    · exact .same _ (List.takeWhile_prefix _).length_le
  · have := congrArg List.length hint.2
    rw [List.length_take] at this
    exact min_eq_left_iff.1 this

end

/-! ## Pieces of padded texts -/

/-- The piece holds blanks only. -/
structure Lexeme.IsBlank (piece : Lexeme) : Prop where
  kind : piece.kind = .blank
  text : IsPadding piece.text

/-- A blank is cut into a piece with the spaces that go with it. -/
theorem lexemesFrom_blank
    {c : Char}
    (cBlank : isBlank c = true)
    (marked : Bool)
    (position : Nat)
    (rest : List Char) :
    ∃ piece start, Lexeme.IsBlank piece ∧
      lexemesFrom marked position (c :: rest) =
        (lexemesFrom marked start
          (if isSpacing c then rest.dropWhile isSpacing else rest)).map (piece :: ·) := by
  cases spacing : isSpacing c with
  | true =>
      have spaces : rest.take (rest.takeWhile isSpacing).length = rest.takeWhile isSpacing :=
        (List.prefix_iff_eq_take.1 (List.takeWhile_prefix _)).symm
      have behind : rest.drop (rest.takeWhile isSpacing).length = rest.dropWhile isSpacing := by
        nth_rewrite 2 [← List.takeWhile_append_dropWhile (p := isSpacing) (l := rest)]
        exact List.drop_left
      refine ⟨⟨.blank, position, c :: rest.takeWhile isSpacing⟩,
        position + (rest.takeWhile isSpacing).length + 1, ⟨rfl, ?_⟩, ?_⟩
      · exact List.forall_mem_cons.2 ⟨cBlank, fun d member =>
          isBlank_of_isSpacing (List.mem_takeWhile_imp member)⟩
      · simp [lexemesFrom, cut, spacing, spaces, behind, marksParameter]
  | false =>
      refine ⟨⟨.blank, position, [c]⟩, position + 1, ⟨rfl, by simpa [IsPadding] using cBlank⟩, ?_⟩
      simp [lexemesFrom, cut, spacing, cBlank, marksParameter]

/-- Blanks before a text are cut into pieces of their own. -/
theorem lexemesFrom_dropWhile
    (marked : Bool)
    (position : Nat)
    (text : List Char) :
    ∃ blanks start, (∀ piece ∈ blanks, Lexeme.IsBlank piece) ∧
      lexemesFrom marked position text =
        (lexemesFrom marked start (text.dropWhile isBlank)).map (blanks ++ ·) := by
  have whole : ∀ own, (lexemesFrom marked position own) =
      (lexemesFrom marked position own).map ([] ++ ·) := fun own => by
    cases lexemesFrom marked position own <;> rfl
  match text with
  | [] => exact ⟨[], position, by simp, whole []⟩
  | c :: rest =>
      cases cBlank : isBlank c with
      | false =>
          refine ⟨[], position, by simp, ?_⟩
          rw [List.dropWhile_cons_of_neg (by simp [cBlank])]
          exact whole _
      | true =>
          obtain ⟨piece, start, pieceBlank, cutFirst⟩ :=
            lexemesFrom_blank cBlank marked position rest
          have shorter : (if isSpacing c then rest.dropWhile isSpacing else rest).length <
              (c :: rest).length := by
            split
            · exact Nat.lt_succ_of_le (List.dropWhile_suffix _).length_le
            · exact Nat.lt_succ_self _
          obtain ⟨blanks, behind, areBlank, cutRest⟩ := lexemesFrom_dropWhile marked start
            (if isSpacing c then rest.dropWhile isSpacing else rest)
          refine ⟨piece :: blanks, behind, List.forall_mem_cons.2 ⟨pieceBlank, areBlank⟩, ?_⟩
          have same : (if isSpacing c then rest.dropWhile isSpacing else rest).dropWhile isBlank =
              rest.dropWhile isBlank := by
            split
            · nth_rewrite 2 [← List.takeWhile_append_dropWhile (p := isSpacing) (l := rest)]
              rw [List.dropWhile_append_of_pos fun d member =>
                isBlank_of_isSpacing (List.mem_takeWhile_imp member)]
            · rfl
          rw [cutFirst, cutRest, same, List.dropWhile_cons_of_pos cBlank]
          cases lexemesFrom marked behind (rest.dropWhile isBlank) <;> rfl
termination_by text.length
decreasing_by exact shorter

/-- Blanks alone are cut into pieces of blanks. -/
theorem lexemesFrom_isPadding
    {padding : List Char}
    (blank : IsPadding padding)
    (marked : Bool)
    (position : Nat) :
    ∃ blanks, lexemesFrom marked position padding = .ok blanks ∧
      ∀ piece ∈ blanks, Lexeme.IsBlank piece := by
  obtain ⟨blanks, start, areBlank, cutAll⟩ := lexemesFrom_dropWhile marked position padding
  rw [blank.dropWhile_isBlank, lexemesFrom] at cutAll
  exact ⟨blanks, cutAll.trans (congrArg Except.ok (List.append_nil blanks)), areBlank⟩

/-- Two pieces have the same kind and text, wherever they stand. -/
structure Lexeme.Same (left right : Lexeme) : Prop where
  kind : left.kind = right.kind
  text : left.text = right.text

/-- How the pieces of a text compare with those of the padded text: there may be more blanks at the
end, and a comment at the end may take blanks along. -/
inductive Padded : List Lexeme → List Lexeme → Prop
  | blanks {left right : List Lexeme} (leftBlank : ∀ piece ∈ left, Lexeme.IsBlank piece)
      (rightBlank : ∀ piece ∈ right, Lexeme.IsBlank piece) :
      Padded left right
  | comment {position other : Nat} {text padding : List Char} {right : List Lexeme}
      (blank : IsPadding padding) (rightBlank : ∀ piece ∈ right, Lexeme.IsBlank piece) :
      Padded [⟨.comment false, position, text⟩]
        (⟨.comment false, other, text ++ padding⟩ :: right)
  | cons {first second : Lexeme} {left right : List Lexeme} (same : first.Same second)
      (rest : Padded left right) :
      Padded (first :: left) (second :: right)

/-- Results of cutting a text and the padded text. -/
inductive CutsAlike : Except UnclosedFault (List Lexeme) → Except UnclosedFault (List Lexeme) → Prop
  | unclosed (fault other : UnclosedFault) : CutsAlike (.error fault) (.error other)
  | pieces {left right : List Lexeme} (padded : Padded left right) :
      CutsAlike (.ok left) (.ok right)

theorem CutsAlike.cons
    {left right : Except UnclosedFault (List Lexeme)}
    (alike : CutsAlike left right)
    {first second : Lexeme}
    (same : first.Same second) :
    CutsAlike (left.map (first :: ·)) (right.map (second :: ·)) := by
  cases alike with
  | unclosed fault other => exact .unclosed fault other
  | pieces padded => exact .pieces (.cons same padded)

/-- A padded text is cut into the pieces of the text and blanks, or neither is cut. -/
theorem lexemesFrom_append
    {padding : List Char}
    (blank : IsPadding padding)
    (marked : Bool)
    (position other : Nat)
    (text : List Char) :
    CutsAlike (lexemesFrom marked position text) (lexemesFrom marked other (text ++ padding)) := by
  fun_induction lexemesFrom marked position text generalizing other with
  | case1 marked position =>
      obtain ⟨blanks, cutAll, areBlank⟩ := lexemesFrom_isPadding blank marked other
      rw [List.nil_append, cutAll]
      exact .pieces (.blanks (by simp) areBlank)
  | case2 marked position c rest fault failed =>
      have alike := cut_append blank marked c rest
      rw [failed] at alike
      rw [List.cons_append, lexemesFrom]
      generalize cut marked c (rest ++ padding) = padded at alike
      cases alike
      exact .unclosed _ _
  | case3 marked position c rest kind extra cutFirst lexeme inductionHypothesis =>
      have alike := cut_append blank marked c rest
      rw [cutFirst] at alike
      rw [List.cons_append, lexemesFrom]
      generalize cut marked c (rest ++ padding) = padded at alike
      -- Behind a piece that takes along the rest of the text, only blanks are left on both sides.
      have behind : ∀ more, IsPadding ((rest ++ padding).drop (rest.length + more)) := by
        intro more d member
        rw [List.drop_append, List.drop_eq_nil_of_le (Nat.le_add_right _ _)] at member
        exact blank d (List.mem_of_mem_drop member)
      have taken : ∀ more, ∃ further, IsPadding further ∧
          (rest ++ padding).take (rest.length + more) = rest ++ further := by
        intro more
        refine ⟨padding.take more, fun d member => blank d (List.mem_of_mem_take member), ?_⟩
        rw [List.take_length_add_append]
      cases alike with
      | same kind within =>
          dsimp only
          rw [List.take_append_of_le_length within, List.drop_append_of_le_length within]
          exact (inductionHypothesis _).cons ⟨rfl, rfl⟩
      | blank more whole =>
          obtain ⟨further, furtherBlank, front⟩ := taken more
          obtain ⟨blanks, cutAll, areBlank⟩ :=
            lexemesFrom_isPadding (behind more) marked (other + (rest.length + more) + 1)
          dsimp only [lexeme, marksParameter]
          rw [front, cutAll, List.drop_length, lexemesFrom, List.take_length]
          refine .pieces (.blanks ?_ ?_)
          · simpa using Lexeme.IsBlank.mk rfl whole
          · refine List.forall_mem_cons.2 ⟨⟨rfl, ?_⟩, areBlank⟩
            exact List.cons_append ▸ whole.append furtherBlank
      | comment more =>
          obtain ⟨further, furtherBlank, front⟩ := taken more
          obtain ⟨blanks, cutAll, areBlank⟩ :=
            lexemesFrom_isPadding (behind more) marked (other + (rest.length + more) + 1)
          dsimp only [lexeme, marksParameter]
          rw [front, cutAll, List.drop_length, lexemesFrom, List.take_length, ← List.cons_append]
          exact .pieces (.comment furtherBlank areBlank)

end Query
end FlatTables
