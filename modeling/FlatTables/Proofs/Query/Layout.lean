import FlatTables.Proofs.Query.Pieces
import Mathlib.Data.List.Chain

/-!
# Layouts

A layout of tokens is a text that spells them in order with blanks between them. Whatever the
blanks are, its tokens are the ones that were laid out: no two words are taken for a phrase, no name
for a command, and every sign goes to its number.
-/

namespace FlatTables
namespace Query

open Text (isBlank)

/-- A text that spells tokens in order. Blanks may stand anywhere between tokens, and a token that
is not tight is followed by a blank, by a tight mark or by nothing. -/
inductive Layout : List TokenForm → List Char → Prop
  | nil : Layout [] []
  | blank {c : Char} {forms : List TokenForm} {text : List Char} (blank : isBlank c = true)
      (layout : Layout forms text) :
      Layout forms (c :: text)
  | token {form : TokenForm} {word : List Char} {forms : List TokenForm} {text : List Char}
      (spells : Spells form word) (ends : form.isTight = true ∨ EndsToken text)
      (layout : Layout forms text) :
      Layout (form :: forms) (word ++ text)

/-- A name stands neither behind a name nor behind a semicolon. -/
def MayFollow (first second : TokenForm) : Prop :=
  second.isName = true → first.isName = false ∧ first ≠ .semicolon

/-! ## What stands behind a word -/

/-- Blanks at the front of a layout can be dropped. -/
theorem Layout.dropWhile_isBlank
    {forms : List TokenForm}
    {text : List Char}
    (layout : Layout forms text) :
    Layout forms (text.dropWhile isBlank) := by
  induction layout with
  | nil => exact .nil
  | blank blank layout inductionHypothesis => rwa [List.dropWhile_cons_of_pos blank]
  | token spells ends layout inductionHypothesis =>
      have whole := Layout.token spells ends layout
      obtain ⟨c, tail, rfl, notBlank⟩ := spells.exists_cons
      rw [List.cons_append] at whole ⊢
      rwa [List.dropWhile_cons_of_neg (by simp [notBlank])]

/-- A spelling agrees with the text it is found in, in upper case. -/
theorem toUpper_eq_of_spelled
    {spelling : List Char}
    (letters : ∀ s ∈ spelling, s.isUpper = true)
    {word rest : List Char}
    {length : Nat}
    (spelled : spellingLength? spelling (word ++ rest) = some length) :
    ∀ s c, (s, c) ∈ spelling.zip word → s = c.toUpper := by
  induction spelling generalizing word length with
  | nil => simp
  | cons s spelling inductionHypothesis =>
      cases word with
      | nil => simp
      | cons c word =>
          have upper := letters s List.mem_cons_self
          have notSpace : s ≠ ' ' := ne_of_isWordChar (isWordChar_of_isUpper upper) (by decide)
          simp only [List.cons_append, spellingLength?, notSpace, if_false] at spelled
          split at spelled
          · rename_i same
            rw [toUpper_of_not_isLower (isLower_of_isUpper upper)] at same
            obtain ⟨shorter, spelledRest, _⟩ := Option.map_eq_some_iff.1 spelled
            intro other d member
            rcases List.mem_cons.1 member with first | inRest
            · cases first
              exact same
            · exact inductionHypothesis
                (fun letter inSpelling => letters letter (List.mem_cons_of_mem s inSpelling))
                spelledRest other d inRest
          · cases spelled

/-- No reserved word goes on with what completes a phrase. -/
theorem not_spelled_keyword
    {phrase : String}
    (member : phrase ∈ phrases)
    {separator s : Char}
    {second : List Char}
    (tail : phraseTail phrase = separator :: s :: second)
    {keyword : Keyword}
    {word : List Char}
    (upper : upperWord word = keyword.text.toList)
    (rest : List Char) :
    spellingLength? (s :: second) (word ++ rest) = none := by
  obtain ⟨_, _, _, _, _, ownTail, _, letters⟩ := phrase_parts member
  rw [tail] at ownTail
  cases ownTail
  cases spelled : spellingLength? (s :: second) (word ++ rest) with
  | none => rfl
  | some length =>
      exfalso
      have agree := toUpper_eq_of_spelled letters spelled
      have same : ∀ pair ∈ (s :: second).zip keyword.text.toList, pair.1 = pair.2 := by
        rw [← upper, upperWord, List.zip_map_right]
        intro pair inZip
        obtain ⟨⟨letter, c⟩, inPlain, rfl⟩ := List.mem_map.1 inZip
        have own := agree letter c inPlain
        exact (upperChar_of_toUpper (letters letter (List.of_mem_zip inPlain).1) own.symm).symm
      have all : Keyword.all.all (fun keyword => phrases.all fun phrase =>
          ((phraseTail phrase).tail.zip keyword.text.toList).any fun pair => pair.1 != pair.2) =
          true := by
        decide
      have differs := List.all_eq_true.1 (List.all_eq_true.1 all keyword keyword.mem_all) phrase
        member
      rw [tail, List.tail_cons, List.any_eq_true] at differs
      obtain ⟨pair, inZip, unlike⟩ := differs
      exact (bne_iff_ne.1 unlike) (same pair inZip)

/-- A letter is not spelled where none stands. -/
theorem not_spelled_of_isUpper_eq_false
    {s c : Char}
    (letter : s.isUpper = true)
    (noLetter : c.toUpper.isUpper = false)
    (second rest : List Char) :
    spellingLength? (s :: second) (c :: rest) = none := by
  have notSpace : s ≠ ' ' := ne_of_isWordChar (isWordChar_of_isUpper letter) (by decide)
  have unlike : ¬ s.toUpper = c.toUpper := by
    intro same
    rw [← same, toUpper_of_not_isLower (isLower_of_isUpper letter), letter] at noLetter
    cases noLetter
  rw [spellingLength?, if_neg notSpace, if_neg unlike]

/-- Only a name can go on with what completes a phrase behind its blank. -/
theorem Layout.not_spelled
    {forms : List TokenForm}
    {text : List Char}
    (layout : Layout forms text)
    (noName : ∀ form, forms.head? = some form → form.isName = false)
    {phrase : String}
    (member : phrase ∈ phrases)
    {separator s : Char}
    {second : List Char}
    (tail : phraseTail phrase = separator :: s :: second) :
    spellingLength? (s :: second) text = none := by
  obtain ⟨_, _, _, _, _, ownTail, _, letters⟩ := phrase_parts member
  have letter : s.isUpper = true := by
    rw [tail] at ownTail
    cases ownTail
    exact letters s List.mem_cons_self
  cases layout with
  | nil => rfl
  | blank blank layout =>
      rename_i c text
      have noWord : isWordChar c = false := by simp [isWordChar, blank]
      have noLetter := isUpper_toUpper_of_not_isWordChar noWord
      exact not_spelled_of_isUpper_eq_false letter noLetter second text
  | token spells ends layout =>
      rename_i form word forms rest
      by_cases isKeyword : ∃ keyword, form = .keyword keyword
      · obtain ⟨keyword, rfl⟩ := isKeyword
        cases spells with
        | keyword upper => exact not_spelled_keyword member tail upper rest
      · obtain ⟨c, others, rfl, _, noLetter⟩ := spells.starts_without_letter (noName form rfl)
          fun keyword isForm => isKeyword ⟨keyword, isForm⟩
        exact not_spelled_of_isUpper_eq_false letter noLetter second (others ++ rest)

/-- A layout behind a word completes a phrase only if it starts with a name. -/
theorem Layout.not_completesPhrase
    {forms : List TokenForm}
    {text : List Char}
    (layout : Layout forms text)
    (ends : EndsToken text)
    (noName : ∀ form, forms.head? = some form → form.isName = false) :
    ¬ CompletesPhrase text := by
  rintro ⟨phrase, member, length, spelled⟩
  obtain ⟨_, _, separator, s, second, tail, isSeparator, letters⟩ := phrase_parts member
  rw [tail] at spelled
  cases text with
  | nil => cases spelled
  | cons c text =>
      have noWord := ends.isWordChar_eq_false (c := c) rfl
      rcases isSeparator with rfl | rfl
      · rw [spellingLength?, if_pos rfl] at spelled
        split at spelled
        · rename_i blank
          have behind := layout.dropWhile_isBlank
          rw [List.dropWhile_cons_of_pos blank] at behind
          rw [behind.not_spelled noName member tail] at spelled
          cases spelled
        · cases spelled
      · have same : '-'.toUpper = c.toUpper := by
          rw [spellingLength?, if_neg (by decide)] at spelled
          split at spelled
          · assumption
          · cases spelled
        obtain rfl := eq_of_toUpper_eq (by decide) same
        exact ends.head?_ne (by decide) (by decide) rfl

/-! ## Cutting a layout -/

/-- A layout is cut into pieces that stand for its tokens, also without the spaces at its front. -/
theorem Layout.cutsInto
    {forms : List TokenForm}
    {text : List Char}
    (layout : Layout forms text)
    (order : forms.IsChain MayFollow) :
    CutsInto text forms ∧ CutsInto (text.dropWhile isSpacing) forms := by
  -- A space takes the spaces behind it along into one piece, so the induction needs both parts.
  induction layout with
  | nil =>
      have empty : CutsInto [] [] := fun position => ⟨[], by rw [lexemesFrom], .nil⟩
      exact ⟨empty, empty⟩
  | blank blank layout inductionHypothesis =>
      rename_i c forms text
      obtain ⟨own, behind⟩ := inductionHypothesis order
      have whole : CutsInto (c :: text) forms := .blank blank own behind
      refine ⟨whole, ?_⟩
      cases spacing : isSpacing c with
      | true => rwa [List.dropWhile_cons_of_pos spacing]
      | false => rwa [List.dropWhile_cons_of_neg (by simp [spacing])]
  | token spells ends layout inductionHypothesis =>
      rename_i form word forms text
      obtain ⟨head, rest⟩ := List.isChain_cons.1 order
      obtain ⟨own, _⟩ := inductionHypothesis rest
      have noPhrase : form.isName = true → ¬ CompletesPhrase text := by
        -- Only a name could complete a phrase, and no name stands behind a name.
        intro isName
        refine layout.not_completesPhrase (ends.resolve_left ?_) fun next first => ?_
        · cases form <;> simp_all [TokenForm.isName, TokenForm.isTight]
        · apply Bool.eq_false_iff.2
          intro nextIsName
          exact absurd (head next first nextIsName).1 (by simp [isName])
      have whole : CutsInto (word ++ text) (form :: forms) := own.spelled spells ends noPhrase
      refine ⟨whole, ?_⟩
      obtain ⟨c, tail, rfl, notBlank⟩ := spells.exists_cons
      rw [List.cons_append] at whole ⊢
      rwa [List.dropWhile_cons_of_neg (by simp [isSpacing_eq_false notBlank])]

/-! ## Tokens of pieces -/

/-- Of the words, only names can be those of commands and of what opens them. -/
theorem isName_of_spellsOneOf
    {piece : Lexeme}
    {form : TokenForm}
    (isForm : piece.form? = some form)
    {words : List String}
    (noKeyword : ∀ keyword : Keyword, words.any (·.toList == keyword.text.toList) = false)
    (spells : piece.spellsOneOf words = true) :
    form.isName = true := by
  unfold Lexeme.spellsOneOf at spells
  simp only [Bool.and_eq_true, beq_iff_eq] at spells
  obtain ⟨isWord, listed⟩ := spells
  simp only [Lexeme.form?, isWord] at isForm
  cases reserved : Keyword.ofWord? piece.text with
  | some keyword =>
      rw [ofWord?_eq_some_iff.1 reserved, noKeyword keyword] at listed
      cases listed
  | none =>
      simp only [reserved, plainName?] at isForm
      split at isForm
      · cases isForm
        rfl
      · cases isForm

theorem isName_of_isCommand
    {piece : Lexeme}
    {form : TokenForm}
    (isForm : piece.form? = some form)
    (command : piece.isCommand = true) :
    form.isName = true :=
  isName_of_spellsOneOf isForm (fun keyword => by cases keyword <;> decide) command

theorem isName_or_eq_semicolon_of_opensCommand
    {piece : Lexeme}
    {form : TokenForm}
    (isForm : piece.form? = some form)
    (opens : piece.opensCommand = true) :
    form.isName = true ∨ form = .semicolon := by
  rcases Bool.or_eq_true_iff.1 opens with semicolon | begins
  · simp only [Lexeme.isSymbol, Bool.and_eq_true, beq_iff_eq] at semicolon
    simp only [Lexeme.form?, semicolon.1, semicolon.2] at isForm
    cases isForm
    exact .inr rfl
  · exact .inl (isName_of_spellsOneOf isForm (fun keyword => by cases keyword <;> decide) begins)

theorem significantAfter_blank
    {piece : Lexeme}
    (blank : piece.kind = .blank)
    (previous : Option Lexeme)
    (pieces : List Lexeme) :
    significantAfter previous (piece :: pieces) = significantAfter previous pieces := by
  rw [significantAfter, blank]

/-- A piece that is no command counts, and so do the pieces behind it. -/
theorem significantAfter_cons
    {piece : Lexeme}
    {previous : Option Lexeme}
    (noBlank : piece.kind ≠ .blank)
    (noComment : ∀ opensHint, piece.kind ≠ .comment opensHint)
    (noCommand : (piece.isCommand && previous.all Lexeme.opensCommand) = false)
    (pieces : List Lexeme) :
    significantAfter previous (piece :: pieces) =
      piece :: significantAfter (some piece) pieces := by
  rw [significantAfter]
  split
  · rename_i blank
    exact absurd blank noBlank
  · rename_i comment
    exact absurd comment (noComment _)
  · simp [noCommand]

theorem joinSigns_cons
    {piece : Lexeme}
    (noSign : piece.isSign = false)
    (pieces : List Lexeme) :
    joinSigns (piece :: pieces) = piece :: joinSigns pieces := by
  cases pieces <;> simp [joinSigns, noSign]

theorem joinSigns_signed
    {sign number : Lexeme}
    (isSign : sign.isSign = true)
    (isNumber : number.kind = .number)
    (pieces : List Lexeme) :
    joinSigns (sign :: number :: pieces) =
      ⟨.number, sign.start, sign.text ++ number.text⟩ :: joinSigns pieces := by
  simp [joinSigns, isSign, isNumber]

/-- A piece in front adds its token. -/
theorem tokensOf_cons
    {source : List Char}
    {piece : Lexeme}
    {form : TokenForm}
    (isForm : piece.form? = some form)
    {pieces : List Lexeme}
    {tokens : List Token}
    (others : tokensOf source pieces = .ok tokens) :
    tokensOf source (piece :: pieces) = .ok (⟨form, piece.start⟩ :: tokens) := by
  simp [tokensOf, Lexeme.token, isForm, others, Except.map]

/-- The tokens of pieces are the ones they stand for, and an end token. The first piece is no
command, and no later one is since no name stands behind a name or semicolon. -/
theorem StandFor.exists_tokens
    {pieces : List Lexeme}
    {forms : List TokenForm}
    (standFor : StandFor pieces forms)
    (order : forms.IsChain MayFollow)
    {previous : Option Lexeme}
    (noCommand : ∀ form, forms.head? = some form → form.isName = true →
      previous.all Lexeme.opensCommand = false)
    (source : List Char) :
    ∃ tokens, tokensOf source (joinSigns (significantAfter previous pieces)) = .ok tokens ∧
      tokens.map Token.form = forms ++ [.finish] := by
  induction standFor generalizing previous with
  | nil => exact ⟨[⟨.finish, source.length⟩], by simp [significantAfter, joinSigns, tokensOf], rfl⟩
  | blank blank others inductionHypothesis =>
      rw [significantAfter_blank blank]
      exact inductionHypothesis order noCommand
  | token isForm noSign others inductionHypothesis =>
      rename_i piece pieces form forms
      obtain ⟨head, rest⟩ := List.isChain_cons.1 order
      have ready : ∀ next, forms.head? = some next → next.isName = true →
          (some piece).all Lexeme.opensCommand = false := by
        -- A piece that opens commands is a name or a semicolon, which no name stands behind.
        intro next first isName
        obtain ⟨noName, noSemicolon⟩ := head next first isName
        apply Bool.eq_false_iff.2
        intro opens
        rcases isName_or_eq_semicolon_of_opensCommand isForm opens with isName | semicolon
        · exact Bool.eq_false_iff.1 noName isName
        · exact noSemicolon semicolon
      have notCommand : (piece.isCommand && previous.all Lexeme.opensCommand) = false := by
        cases command : piece.isCommand with
        | false => rfl
        | true => exact noCommand form rfl (isName_of_isCommand isForm command)
      obtain ⟨tokens, read, shape⟩ := inductionHypothesis rest ready
      rw [significantAfter_cons (fun blank => by simp [Lexeme.form?, blank] at isForm)
        (fun _ comment => by simp [Lexeme.form?, comment] at isForm) notCommand,
        joinSigns_cons noSign]
      exact ⟨_, tokensOf_cons isForm read, by simp [shape]⟩
  | signed isSign isNumber others inductionHypothesis =>
      rename_i sign number pieces forms
      obtain ⟨_, rest⟩ := List.isChain_cons.1 order
      have isSymbol : sign.kind = .symbol := by
        rcases Bool.or_eq_true_iff.1 isSign with plus | minus
        · exact beq_iff_eq.1 (Bool.and_eq_true_iff.1 plus).1
        · exact beq_iff_eq.1 (Bool.and_eq_true_iff.1 minus).1
      have ready : ∀ next, forms.head? = some next → next.isName = true →
          (some number).all Lexeme.opensCommand = false := by
        intro next _ _
        simp [Lexeme.opensCommand, Lexeme.isSymbol, Lexeme.spellsOneOf, isNumber]
      obtain ⟨tokens, read, shape⟩ := inductionHypothesis rest ready
      rw [significantAfter_cons (by simp [isSymbol]) (by simp [isSymbol])
          (by simp [Lexeme.isCommand, Lexeme.spellsOneOf, isSymbol]),
        significantAfter_cons (by simp [isNumber]) (by simp [isNumber])
          (by simp [Lexeme.isCommand, Lexeme.spellsOneOf, isNumber]),
        joinSigns_signed isSign isNumber]
      exact ⟨_, tokensOf_cons rfl read, by simp [shape]⟩

/-- A layout whose first token is no name has the tokens that are laid out, and an end token. -/
theorem Layout.tokenize_eq_ok
    {forms : List TokenForm}
    {sql : String}
    (layout : Layout forms sql.toList)
    (order : forms.IsChain MayFollow)
    (noName : ∀ form, forms.head? = some form → form.isName = false) :
    ∃ tokens, tokenize sql = .ok tokens ∧ tokens.map Token.form = forms ++ [.finish] := by
  obtain ⟨pieces, cutEq, standFor⟩ := (layout.cutsInto order).1 0
  have noCommand : ∀ form, forms.head? = some form → form.isName = true →
      (none : Option Lexeme).all Lexeme.opensCommand = false := by
    intro form first isName
    rw [noName form first] at isName
    cases isName
  obtain ⟨tokens, read, shape⟩ := standFor.exists_tokens order noCommand sql.toList
  refine ⟨tokens, ?_, shape⟩
  simp only [tokenize, lexemes, cutEq]
  exact read

end Query
end FlatTables
