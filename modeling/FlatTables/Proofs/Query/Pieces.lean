import FlatTables.Proofs.Query.Cutting

/-!
# Pieces of spelled tokens

A text that spells tokens is cut into pieces that stand for them: blanks stand for nothing, a sign
and a number for one token. Each spelling adds its own pieces in front of those of the text behind
it.
-/

namespace FlatTables
namespace Query

open Decimal (IsAsciiDigits)
open Text (isBlank)

/-- The token needs no blanks around it. -/
def TokenForm.isTight : TokenForm → Bool
  | .comma | .open | .close | .semicolon => true
  | _ => false

/-- The token is a name. -/
def TokenForm.isName : TokenForm → Bool
  | .name _ => true
  | _ => false

/-- The pieces of a text that stand for its tokens: blanks stand for none, a sign and a number for
one, and any other piece for a token of its own. -/
inductive StandFor : List Lexeme → List TokenForm → Prop
  | nil : StandFor [] []
  | blank {piece : Lexeme} {pieces : List Lexeme} {forms : List TokenForm}
      (blank : piece.kind = .blank) (others : StandFor pieces forms) :
      StandFor (piece :: pieces) forms
  | token {piece : Lexeme} {pieces : List Lexeme} {form : TokenForm} {forms : List TokenForm}
      (isForm : piece.form? = some form) (noSign : piece.isSign = false)
      (others : StandFor pieces forms) :
      StandFor (piece :: pieces) (form :: forms)
  | signed {sign number : Lexeme} {pieces : List Lexeme} {forms : List TokenForm}
      (isSign : sign.isSign = true) (isNumber : number.kind = .number)
      (others : StandFor pieces forms) :
      StandFor (sign :: number :: pieces)
        (.number (String.ofList (sign.text ++ number.text)) :: forms)

/-- Wherever a text starts, it is cut into pieces that stand for tokens. -/
def CutsInto (text : List Char) (forms : List TokenForm) : Prop :=
  ∀ position, ∃ pieces, lexemesFrom false position text = .ok pieces ∧ StandFor pieces forms

/-! ## Pieces -/

theorem lexemesFrom_of_cut
    {c : Char}
    {tail rest : List Char}
    {kind : LexemeKind}
    (cutEq : cut false c (tail ++ rest) = .ok (kind, tail.length))
    (unmarked : c ≠ '@')
    (position : Nat) :
    lexemesFrom false position (c :: (tail ++ rest)) =
      (lexemesFrom false (position + tail.length + 1) rest).map
        (⟨kind, position, c :: tail⟩ :: ·) := by
  have noMark : marksParameter false ⟨kind, position, c :: tail⟩ = false := by
    cases kind <;> simp [marksParameter, unmarked]
  rw [lexemesFrom, cutEq]
  simp [noMark]

/-- A piece that stands for a token is followed by the pieces of the rest. -/
theorem CutsInto.token
    {c : Char}
    {tail rest : List Char}
    {kind : LexemeKind}
    {form : TokenForm}
    {forms : List TokenForm}
    (others : CutsInto rest forms)
    (cutEq : cut false c (tail ++ rest) = .ok (kind, tail.length))
    (unmarked : c ≠ '@')
    (isForm : ∀ position, Lexeme.form? ⟨kind, position, c :: tail⟩ = some form)
    (noSign : kind ≠ .symbol ∨ c ≠ '+' ∧ c ≠ '-') :
    CutsInto (c :: (tail ++ rest)) (form :: forms) := by
  intro position
  obtain ⟨pieces, cutRest, standFor⟩ := others (position + tail.length + 1)
  refine ⟨⟨kind, position, c :: tail⟩ :: pieces, ?_, .token (isForm position) ?_ standFor⟩
  · rw [lexemesFrom_of_cut cutEq unmarked, cutRest]
    rfl
  · rcases noSign with noSymbol | ⟨noPlus, noMinus⟩
    · simp [Lexeme.isSign, Lexeme.isSymbol, noSymbol]
    · simp [Lexeme.isSign, Lexeme.isSymbol, noPlus, noMinus]

/-- A blank and the spaces behind it make up one piece, which stands for nothing. -/
theorem CutsInto.blank
    {c : Char}
    {rest : List Char}
    {forms : List TokenForm}
    (blank : isBlank c = true)
    (others : CutsInto rest forms)
    (behind : CutsInto (rest.dropWhile isSpacing) forms) :
    CutsInto (c :: rest) forms := by
  intro position
  have unmarked : c ≠ '@' := by
    rintro rfl
    exact absurd blank (by decide)
  -- A space takes the spaces behind it along; any other blank is cut alone.
  cases spacing : isSpacing c with
  | true =>
      have cutEq : cut false c (rest.takeWhile isSpacing ++ rest.dropWhile isSpacing) =
          .ok (.blank, (rest.takeWhile isSpacing).length) := by
        rw [List.takeWhile_append_dropWhile, cut, if_pos spacing]
      obtain ⟨pieces, cutRest, standFor⟩ :=
        behind (position + (rest.takeWhile isSpacing).length + 1)
      refine ⟨⟨.blank, position, c :: rest.takeWhile isSpacing⟩ :: pieces, ?_,
        .blank rfl standFor⟩
      conv_lhs => rw [← List.takeWhile_append_dropWhile (p := isSpacing) (l := rest)]
      rw [lexemesFrom_of_cut cutEq unmarked, cutRest]
      rfl
  | false =>
      have cutEq : cut false c ([] ++ rest) = .ok (.blank, ([] : List Char).length) := by
        rw [List.nil_append, cut, if_neg (by simp [spacing]), if_pos blank]
        rfl
      obtain ⟨pieces, cutRest, standFor⟩ := others (position + 1)
      refine ⟨⟨.blank, position, [c]⟩ :: pieces, ?_, .blank rfl standFor⟩
      conv_lhs => rw [← List.nil_append rest]
      rw [lexemesFrom_of_cut cutEq unmarked, List.length_nil, Nat.add_zero, cutRest]
      rfl

/-! ## Pieces of spelled tokens -/

/-- A word spells a reserved word exactly if it is that word in upper case. -/
theorem ofWord?_eq_some_iff
    {word : List Char}
    {keyword : Keyword} :
    Keyword.ofWord? word = some keyword ↔ upperWord word = keyword.text.toList := by
  unfold Keyword.ofWord?
  constructor
  · intro found
    have same := List.find?_some found
    simpa [eq_comm] using same
  · intro upper
    rw [upper]
    cases keyword <;> decide

/-- The characters of a word that spells a reserved word. -/
theorem letters_of_upperWord
    {word : List Char}
    {keyword : Keyword}
    (upper : upperWord word = keyword.text.toList) :
    ∀ c ∈ word, (upperChar c).isUpper = true := by
  intro c member
  have inText : upperChar c ∈ keyword.text.toList := by
    rw [← upper]
    exact List.mem_map_of_mem member
  have all : Keyword.all.all (fun keyword => keyword.text.toList.all Char.isUpper) = true := by
    decide
  exact List.all_eq_true.1 (List.all_eq_true.1 all keyword keyword.mem_all) _ inText

theorem wordChars_of_upperWord
    {word : List Char}
    {keyword : Keyword}
    (upper : upperWord word = keyword.text.toList) :
    ∃ c tail, word = c :: tail ∧ c.isDigit = false ∧ ∀ d ∈ c :: tail, isWordChar d = true := by
  have letters := letters_of_upperWord upper
  have nonempty : word ≠ [] := by
    rintro rfl
    cases keyword <;> cases upper
  obtain ⟨c, tail, rfl⟩ := List.exists_cons_of_ne_nil nonempty
  exact ⟨c, tail, rfl, (isWordChar_of_upperChar (letters c List.mem_cons_self)).2,
    fun d member => (isWordChar_of_upperChar (letters d member)).1⟩

theorem IsBareName.wordChars
    {word : List Char}
    (isBareName : IsBareName word) :
    ∃ c tail, word = c :: tail ∧ c.isDigit = false ∧ ∀ d ∈ c :: tail, isWordChar d = true := by
  obtain ⟨plain, _⟩ := isBareName
  cases word with
  | nil => cases plain
  | cons c tail =>
      have parts : startsPlainWord c = true ∧ ∀ d ∈ tail, continuesPlainWord d = true := by
        simpa [isPlainWord] using plain
      obtain ⟨starts, continues⟩ := parts
      have continuesFirst : continuesPlainWord c = true := by simp [continuesPlainWord, starts]
      have noDigit : c.isDigit = false := by
        simpa using Text.of_ascii (q := fun d => !d.isDigit) (by decide)
          (lt_of_continuesPlainWord continuesFirst) starts
      refine ⟨c, tail, rfl, noDigit, fun d member => isWordChar_of_continuesPlainWord ?_⟩
      rcases List.mem_cons.1 member with rfl | inTail
      · exact continuesFirst
      · exact continues d inTail

theorem IsNumber.exists_cons
    {digits : List Char}
    (isNumber : IsNumber digits) :
    ∃ c tail, digits = c :: tail ∧ (c.isDigit = true ∨ c = '+' ∨ c = '-') := by
  obtain ⟨isSign, ascii, nonempty, isFraction, isExponent⟩ := isNumber
  cases isSign with
  | absent =>
      obtain ⟨c, tail, rfl⟩ := List.exists_cons_of_ne_nil nonempty
      exact ⟨c, _, rfl, .inl (ascii c List.mem_cons_self)⟩
  | plus => exact ⟨'+', _, rfl, .inr (.inl rfl)⟩
  | minus => exact ⟨'-', _, rfl, .inr (.inr rfl)⟩

/-- A token that is no word starts with no letter. -/
theorem Spells.starts_without_letter
    {form : TokenForm}
    {word : List Char}
    (spells : Spells form word)
    (noName : form.isName = false)
    (noKeyword : ∀ keyword, form ≠ .keyword keyword) :
    ∃ c tail, word = c :: tail ∧ isBlank c = false ∧ c.toUpper.isUpper = false := by
  cases spells with
  | keyword upper => exact absurd rfl (noKeyword _)
  | bareName isBareName => cases noName
  | quotedName name => cases noName
  | text content => exact ⟨_, _, rfl, by decide, by decide⟩
  | number isNumber =>
      obtain ⟨c, tail, equal, digit | rfl | rfl⟩ := isNumber.exists_cons
      · have isWord := isWordChar_of_isDigit digit
        exact ⟨c, tail, equal, (isWordChar_eq_true_iff.1 isWord).1,
          isUpper_toUpper_of_isDigit digit⟩
      · exact ⟨_, tail, equal, by decide, by decide⟩
      · exact ⟨_, tail, equal, by decide, by decide⟩
  | operator op => cases op <;> exact ⟨_, _, rfl, by decide, by decide⟩
  | unequal | comma | «open» | close | star | semicolon =>
      exact ⟨_, _, rfl, by decide, by decide⟩

/-- A spelling starts with no blank. -/
theorem Spells.exists_cons
    {form : TokenForm}
    {word : List Char}
    (spells : Spells form word) :
    ∃ c tail, word = c :: tail ∧ isBlank c = false := by
  cases spells with
  | keyword upper =>
      obtain ⟨c, tail, equal, _, wordChars⟩ := wordChars_of_upperWord upper
      exact ⟨c, tail, equal, (isWordChar_eq_true_iff.1 (wordChars c List.mem_cons_self)).1⟩
  | bareName isBareName =>
      obtain ⟨c, tail, equal, _, wordChars⟩ := isBareName.wordChars
      exact ⟨c, tail, equal, (isWordChar_eq_true_iff.1 (wordChars c List.mem_cons_self)).1⟩
  | quotedName name => exact ⟨_, _, rfl, by decide⟩
  | text content =>
      exact ⟨_, _, rfl, by decide⟩
  | number isNumber =>
      obtain ⟨c, tail, equal, notBlank, _⟩ :=
        (Spells.number isNumber).starts_without_letter rfl (by simp)
      exact ⟨c, tail, equal, notBlank⟩
  | operator op =>
      obtain ⟨c, tail, equal, notBlank, _⟩ :=
        (Spells.operator op).starts_without_letter rfl (by simp)
      exact ⟨c, tail, equal, notBlank⟩
  | unequal | comma | «open» | close | star | semicolon => exact ⟨_, _, rfl, by decide⟩

/-- A reserved word is the first word of no phrase. -/
theorem phraseHead_ne_of_upperWord
    {word : List Char}
    {keyword : Keyword}
    (upper : upperWord word = keyword.text.toList) :
    ∀ phrase ∈ phrases, phraseHead phrase ≠ word.map Char.toUpper := by
  intro phrase member same
  have letters := (phrase_parts member).1
  have headEq : upperWord word = phraseHead phrase := by
    rw [same]
    refine List.map_congr_left fun c inWord => ?_
    have inHead : c.toUpper ∈ phraseHead phrase := same ▸ List.mem_map_of_mem inWord
    exact upperChar_of_toUpper (letters _ inHead) rfl
  have all : Keyword.all.all (fun keyword => phrases.all fun phrase =>
      phraseHead phrase != keyword.text.toList) = true := by
    decide
  have own := List.all_eq_true.1 (List.all_eq_true.1 all keyword keyword.mem_all) phrase member
  exact (bne_iff_ne.1 own) (headEq.symm.trans upper)

section
variable {rest : List Char} {forms : List TokenForm} (others : CutsInto rest forms)
include others

theorem CutsInto.keyword
    {keyword : Keyword}
    {word : List Char}
    (upper : upperWord word = keyword.text.toList)
    (ends : EndsToken rest) :
    CutsInto (word ++ rest) (.keyword keyword :: forms) := by
  obtain ⟨c, tail, rfl, noDigit, wordChars⟩ := wordChars_of_upperWord upper
  refine others.token (cut_word noDigit wordChars ends
    (.inl (phraseHead_ne_of_upperWord upper))) ?_ ?_ (.inl (by decide))
  · rintro rfl
    exact absurd (wordChars '@' List.mem_cons_self) (by decide)
  · intro position
    simp [Lexeme.form?, ofWord?_eq_some_iff.2 upper]

theorem CutsInto.bareName
    {name : String}
    (isBareName : IsBareName name.toList)
    (ends : EndsToken rest)
    (noPhrase : ¬ CompletesPhrase rest) :
    CutsInto (name.toList ++ rest) (.name name :: forms) := by
  have nameEq : String.ofList name.toList = name := String.ofList_toList
  generalize name.toList = word at isBareName nameEq
  obtain ⟨c, tail, rfl, noDigit, wordChars⟩ := isBareName.wordChars
  refine others.token (cut_word noDigit wordChars ends (.inr noPhrase)) ?_ ?_ (.inl (by decide))
  · rintro rfl
    exact absurd (wordChars '@' List.mem_cons_self) (by decide)
  · intro position
    simp [Lexeme.form?, isBareName.2, plainName?, isBareName.1, nameEq]

theorem CutsInto.quotedName
    (name : String)
    (ends : EndsToken rest) :
    CutsInto ('"' :: (doubled '"' name.toList ++ ['"']) ++ rest) (.name name :: forms) := by
  have apart : rest.head? ≠ some '"' := ends.head?_ne (by decide) (by decide)
  exact others.token (cut_quotedName name apart) (by decide) (fun position => rfl)
    (.inl (by simp))

theorem CutsInto.text
    (content : String)
    (ends : EndsToken rest) :
    CutsInto ('\'' :: (doubled '\'' content.toList ++ ['\'']) ++ rest)
      (.text content :: forms) := by
  have apart : rest.head? ≠ some '\'' := ends.head?_ne (by decide) (by decide)
  exact others.token (cut_quotedText content apart) (by decide) (fun position => rfl)
    (.inl (by simp))

/-- An operator or mark is one piece if no longer operator is there. -/
theorem CutsInto.symbol
    {c : Char}
    {tail : List Char}
    {form : TokenForm}
    (isForm : symbolForm? (c :: tail) = some form)
    (delimiter : isDelimiter c = true)
    (plain : c ∉ ['"', '\'', '/', '\x7b', '@', '+', '-'])
    (length : (operatorLength? (c :: (tail ++ rest))).getD 1 = tail.length + 1) :
    CutsInto (c :: tail ++ rest) (form :: forms) := by
  simp only [List.mem_cons, List.not_mem_nil, or_false, not_or] at plain
  obtain ⟨notName, notText, notSlash, notBrace, notAt, notPlus, notMinus⟩ := plain
  refine others.token (cut_symbol delimiter ?_ (fun own => notMinus own.1) length) notAt
    (fun position => isForm) (.inr ⟨notPlus, notMinus⟩)
  simp [notName, notText, notSlash, notBrace]

/-- A symbol is a piece of its own if the token ends behind it. -/
theorem CutsInto.endedSymbol
    {c : Char}
    {tail : List Char}
    {form : TokenForm}
    (isForm : symbolForm? (c :: tail) = some form)
    (delimiter : isDelimiter c = true)
    (plain : c ∉ ['"', '\'', '/', '\x7b', '@', '+', '-'])
    (length : (operatorLength? (c :: tail)).getD 1 = tail.length + 1)
    (ends : EndsToken rest) :
    CutsInto (c :: tail ++ rest) (form :: forms) := by
  apply others.symbol isForm delimiter plain
  rw [← List.cons_append, operatorLength?_append ends.isForeign, length]

/-- A tight mark is a piece of its own, whatever follows it. -/
theorem CutsInto.mark
    {c : Char}
    {form : TokenForm}
    (isForm : symbolForm? [c] = some form)
    (tight : c ∈ tightMarks) :
    CutsInto ([c] ++ rest) (form :: forms) := by
  have all : tightMarks.all (fun c => isDelimiter c &&
      not (['"', '\'', '/', '\x7b', '@', '+', '-'].contains c)) = true := by
    decide
  have own := List.all_eq_true.1 all c tight
  simp only [Bool.and_eq_true, Bool.not_eq_true', List.contains_eq_mem, decide_eq_false_iff_not]
    at own
  apply others.symbol isForm own.1 own.2
  rw [List.nil_append, operatorLength?_eq_none (.inr (.inr tight))]
  rfl

/-- A sign directly before a number is a piece that goes to the number. -/
theorem CutsInto.signed
    {sign c : Char}
    {tail : List Char}
    (isSign : sign = '+' ∨ sign = '-')
    (digit : c.isDigit = true)
    (cutEq : cut false c (tail ++ rest) = .ok (.number, tail.length)) :
    CutsInto (sign :: c :: tail ++ rest)
      (.number (String.ofList (sign :: c :: tail)) :: forms) := by
  have isWord : isWordChar c = true := isWordChar_of_isDigit digit
  have unlike : ∀ d, isWordChar d = false → c ≠ d := fun d => ne_of_isWordChar isWord
  have alone : operatorLength? ([sign] ++ c :: (tail ++ rest)) = none := by
    rw [operatorLength?_append]
    · rcases isSign with rfl | rfl <;> decide
    · rintro d ⟨⟩
      exact .inr (.inl isWord)
  have cutSign : cut false sign ([] ++ c :: (tail ++ rest)) =
      .ok (.symbol, ([] : List Char).length) := by
    apply cut_symbol
    · rcases isSign with rfl | rfl <;> decide
    · rcases isSign with rfl | rfl <;> decide
    · rintro ⟨_, first⟩
      exact unlike '-' (by decide) (Option.some.inj first)
    · exact (congrArg (·.getD 1) alone).trans rfl
  have signUnmarked : sign ≠ '@' := by rcases isSign with rfl | rfl <;> decide
  intro position
  obtain ⟨pieces, cutRest, standFor⟩ := others (position + 1 + tail.length + 1)
  refine ⟨⟨.symbol, position, [sign]⟩ :: ⟨.number, position + 1, c :: tail⟩ :: pieces, ?_,
    .signed ?_ rfl standFor⟩
  · have first := lexemesFrom_of_cut cutSign signUnmarked position
    have second := lexemesFrom_of_cut cutEq (unlike '@' (by decide)) (position + 1)
    rw [List.nil_append, List.length_nil, Nat.add_zero] at first
    rw [List.cons_append, List.cons_append, first, second, cutRest]
    rfl
  · rcases isSign with rfl | rfl <;> rfl

/-- A number is one piece, or two if it has a sign. -/
theorem CutsInto.number
    {digits : String}
    (isNumber : IsNumber digits.toList)
    (ends : EndsToken rest) :
    CutsInto (digits.toList ++ rest) (.number digits :: forms) := by
  have digitsEq : String.ofList digits.toList = digits := String.ofList_toList
  generalize digits.toList = chars at isNumber digitsEq
  obtain ⟨isSign, ascii, nonempty, isFraction, isExponent⟩ := isNumber
  rename_i sign whole fraction exponent
  obtain ⟨c, tail, rfl⟩ := List.exists_cons_of_ne_nil nonempty
  have unsigned := cut_number ascii isFraction isExponent ends
  have digit : c.isDigit = true := ascii c List.mem_cons_self
  rw [← digitsEq]
  cases isSign with
  | absent =>
      refine others.token unsigned ?_ (fun position => rfl) (.inl (by decide))
      rintro rfl
      exact absurd digit (by decide)
  | plus => exact others.signed (.inl rfl) digit unsigned
  | minus => exact others.signed (.inr rfl) digit unsigned

end

/-- Each spelling of a token is cut as the pieces of that token. -/
theorem CutsInto.spelled
    {form : TokenForm}
    {word rest : List Char}
    {forms : List TokenForm}
    (others : CutsInto rest forms)
    (spells : Spells form word)
    (ends : form.isTight = true ∨ EndsToken rest)
    (noPhrase : form.isName = true → ¬ CompletesPhrase rest) :
    CutsInto (word ++ rest) (form :: forms) := by
  cases spells with
  | keyword upper => exact others.keyword upper (ends.resolve_left (by simp [TokenForm.isTight]))
  | bareName isBareName =>
      exact others.bareName isBareName (ends.resolve_left (by simp [TokenForm.isTight]))
        (noPhrase rfl)
  | quotedName name =>
      exact others.quotedName name (ends.resolve_left (by simp [TokenForm.isTight]))
  | text content => exact others.text content (ends.resolve_left (by simp [TokenForm.isTight]))
  | number isNumber =>
      exact others.number isNumber (ends.resolve_left (by simp [TokenForm.isTight]))
  | operator op =>
      have endsToken := ends.resolve_left (by simp [TokenForm.isTight])
      cases op <;>
        exact others.endedSymbol (by decide) (by decide) (by decide) (by decide) endsToken
  | unequal =>
      have endsToken := ends.resolve_left (by simp [TokenForm.isTight])
      exact others.endedSymbol (by decide) (by decide) (by decide) (by decide) endsToken
  | star =>
      have endsToken := ends.resolve_left (by simp [TokenForm.isTight])
      exact others.endedSymbol rfl (by decide) (by decide) (by decide) endsToken
  | comma => exact others.mark rfl (by decide)
  | «open» => exact others.mark rfl (by decide)
  | close => exact others.mark rfl (by decide)
  | semicolon => exact others.mark rfl (by decide)

end Query
end FlatTables
