import FlatTables.Proofs.Decimal.ReadBack
import FlatTables.Proofs.Text.CodeRanges
import FlatTables.Query.Token

/-!
# Spelled tokens

The texts a token may be written as: reserved words in any case, names as plain words or in quotes,
texts in quotes, numbers, operators and marks. Inside quotes, every quote is doubled.
-/

namespace FlatTables
namespace Query

open Decimal (IsAsciiDigits)
open Text (ascii_of_isAlpha isBlank of_ascii)

/-! ## Spellings -/

/-- The characters of a text with every quote doubled. -/
def doubled (quote : Char) (content : List Char) : List Char :=
  content.flatMap fun c => if c = quote then [quote, quote] else [c]

/-- A sign, or none. -/
inductive IsSign : List Char → Prop
  | absent : IsSign []
  | plus : IsSign ['+']
  | minus : IsSign ['-']

/-- A point with digits, or nothing. -/
inductive IsFraction : List Char → Prop
  | absent : IsFraction []
  | present {digits : List Char} (ascii : IsAsciiDigits digits) (nonempty : digits ≠ []) :
      IsFraction ('.' :: digits)

/-- A mark with an optional sign and digits, or nothing. -/
inductive IsExponent : List Char → Prop
  | absent : IsExponent []
  | present {mark : Char} {sign digits : List Char} (isMark : mark = 'e' ∨ mark = 'E')
      (isSign : IsSign sign) (ascii : IsAsciiDigits digits) (nonempty : digits ≠ []) :
      IsExponent (mark :: (sign ++ digits))

/-- Digits with an optional sign, fraction and exponent. -/
inductive IsNumber : List Char → Prop
  | intro {sign whole fraction exponent : List Char} (isSign : IsSign sign)
      (ascii : IsAsciiDigits whole) (nonempty : whole ≠ []) (isFraction : IsFraction fraction)
      (isExponent : IsExponent exponent) :
      IsNumber (sign ++ (whole ++ (fraction ++ exponent)))

/-- A word that is a name without quotes: it is plain and not reserved. -/
def IsBareName (word : List Char) : Prop :=
  isPlainWord word = true ∧ Keyword.ofWord? word = none

/-- The texts a token may be written as. -/
inductive Spells : TokenForm → List Char → Prop
  | keyword {keyword : Keyword} {word : List Char} (upper : upperWord word = keyword.text.toList) :
      Spells (.keyword keyword) word
  | bareName {name : String} (isBareName : IsBareName name.toList) :
      Spells (.name name) name.toList
  | quotedName (name : String) : Spells (.name name) ('"' :: (doubled '"' name.toList ++ ['"']))
  | text (content : String) :
      Spells (.text content) ('\'' :: (doubled '\'' content.toList ++ ['\'']))
  | number {digits : String} (isNumber : IsNumber digits.toList) :
      Spells (.number digits) digits.toList
  | operator (op : ComparisonOp) : Spells (.operator op) op.symbol.toList
  | unequal : Spells (.operator .notEqual) ['<', '>']
  | comma : Spells .comma [',']
  | open : Spells .open ['(']
  | close : Spells .close [')']
  | star : Spells .star ['*']
  | semicolon : Spells .semicolon [';']

/-- The marks that need no blank around them. -/
def tightMarks : List Char :=
  [',', '(', ')', ';']

/-- A text before which a token may end: it is empty, or it starts with a blank or a tight mark. -/
def EndsToken (rest : List Char) : Prop :=
  ∀ c, rest.head? = some c → isBlank c = true ∨ c ∈ tightMarks

theorem Keyword.mem_all (keyword : Keyword) : keyword ∈ Keyword.all := by
  cases keyword <;> decide

/-! ## Characters -/

/-- A character of a word. -/
def isWordChar (c : Char) : Bool :=
  !isBlank c && !isDelimiter c

theorem isWordChar_eq_true_iff {c : Char} :
    isWordChar c = true ↔ isBlank c = false ∧ isDelimiter c = false := by
  simp [isWordChar]

/-- The characters of plain words are ASCII characters. -/
theorem lt_of_continuesPlainWord
    {c : Char}
    (continues : continuesPlainWord c = true) :
    c.toNat < 128 := by
  simp only [continuesPlainWord, startsPlainWord, Bool.or_eq_true, beq_iff_eq] at continues
  rcases continues with ((alpha | rfl) | digit) | rfl
  · exact ascii_of_isAlpha alpha
  · decide
  · have below : c.val ≤ ('9' : Char).val :=
      of_decide_eq_true (Bool.and_eq_true_iff.1 digit).2
    exact lt_of_le_of_lt (UInt32.le_iff_toNat_le.1 below) (by decide)
  · decide

theorem isWordChar_of_continuesPlainWord
    {c : Char}
    (continues : continuesPlainWord c = true) :
    isWordChar c = true :=
  of_ascii (by decide) (lt_of_continuesPlainWord continues) continues

theorem continuesPlainWord_of_isUpper
    {c : Char}
    (upper : c.isUpper = true) :
    continuesPlainWord c = true := by
  have alpha : c.isAlpha = true := Bool.or_eq_true_iff.2 (.inl upper)
  simp [continuesPlainWord, startsPlainWord, alpha]

theorem continuesPlainWord_of_isLower
    {c : Char}
    (lower : c.isLower = true) :
    continuesPlainWord c = true := by
  have alpha : c.isAlpha = true := Bool.or_eq_true_iff.2 (.inr lower)
  simp [continuesPlainWord, startsPlainWord, alpha]

theorem continuesPlainWord_of_isDigit
    {c : Char}
    (digit : c.isDigit = true) :
    continuesPlainWord c = true := by
  simp [continuesPlainWord, digit]

theorem isWordChar_of_isUpper
    {c : Char}
    (upper : c.isUpper = true) :
    isWordChar c = true :=
  isWordChar_of_continuesPlainWord (continuesPlainWord_of_isUpper upper)

theorem isWordChar_of_isLower
    {c : Char}
    (lower : c.isLower = true) :
    isWordChar c = true :=
  isWordChar_of_continuesPlainWord (continuesPlainWord_of_isLower lower)

theorem isWordChar_of_isDigit
    {c : Char}
    (digit : c.isDigit = true) :
    isWordChar c = true :=
  isWordChar_of_continuesPlainWord (continuesPlainWord_of_isDigit digit)

theorem isUpper_toUpper
    {c : Char}
    (lower : c.isLower = true) :
    c.toUpper.isUpper = true :=
  of_ascii (q := fun c => c.toUpper.isUpper) (by decide)
    (lt_of_continuesPlainWord (continuesPlainWord_of_isLower lower)) lower

theorem isLower_of_isUpper
    {c : Char}
    (upper : c.isUpper = true) :
    c.isLower = false := by
  simpa using of_ascii (q := fun c => !c.isLower) (by decide)
    (lt_of_continuesPlainWord (continuesPlainWord_of_isUpper upper)) upper

theorem isUpper_toUpper_of_isDigit
    {c : Char}
    (digit : c.isDigit = true) :
    c.toUpper.isUpper = false := by
  simpa using of_ascii (q := fun c => !c.toUpper.isUpper) (by decide)
    (lt_of_continuesPlainWord (continuesPlainWord_of_isDigit digit)) digit

/-- Only lower-case letters have another upper case. -/
theorem toUpper_of_not_isLower
    {c : Char}
    (notLower : c.isLower = false) :
    c.toUpper = c := by
  unfold Char.toUpper
  apply dif_neg
  rintro ⟨above, below⟩
  apply Bool.eq_false_iff.1 notLower
  exact Bool.and_eq_true_iff.2 ⟨decide_eq_true above, decide_eq_true below⟩

theorem isWordChar_toUpper (c : Char) : isWordChar c.toUpper = isWordChar c := by
  cases lower : c.isLower with
  | true => rw [isWordChar_of_isUpper (isUpper_toUpper lower), isWordChar_of_isLower lower]
  | false => rw [toUpper_of_not_isLower lower]

/-- A word character and another character stay different in upper case. -/
theorem toUpper_ne_toUpper
    {c d : Char}
    (isWord : isWordChar c = true)
    (noWord : isWordChar d = false) :
    c.toUpper ≠ d.toUpper := by
  intro same
  rw [← isWordChar_toUpper, ← same, isWordChar_toUpper, isWord] at noWord
  cases noWord

theorem ne_of_isWordChar
    {c d : Char}
    (isWord : isWordChar c = true)
    (noWord : isWordChar d = false) :
    c ≠ d :=
  fun same => toUpper_ne_toUpper isWord noWord (congrArg Char.toUpper same)

theorem isUpper_toUpper_of_not_isWordChar
    {c : Char}
    (noWord : isWordChar c = false) :
    c.toUpper.isUpper = false := by
  apply Bool.eq_false_iff.2
  intro upper
  rw [← isWordChar_toUpper, isWordChar_of_isUpper upper] at noWord
  cases noWord

/-- Characters that agree in upper case are both word characters, or are the same. -/
theorem eq_of_toUpper_eq
    {c d : Char}
    (noWord : isWordChar c = false)
    (same : c.toUpper = d.toUpper) :
    c = d := by
  have notLower : ∀ e : Char, isWordChar e = false → e.isLower = false := fun e noWord =>
    Bool.eq_false_iff.2 fun lower => Bool.eq_false_iff.1 noWord (isWordChar_of_isLower lower)
  have otherNoWord : isWordChar d = false :=
    Bool.eq_false_iff.2 fun isWord => toUpper_ne_toUpper isWord noWord same.symm
  rwa [toUpper_of_not_isLower (notLower c noWord),
    toUpper_of_not_isLower (notLower d otherNoWord)] at same

/-- If the upper case of a character is an ASCII letter, reserved words see it too. -/
theorem upperChar_of_toUpper
    {c letter : Char}
    (upper : letter.isUpper = true)
    (same : c.toUpper = letter) :
    upperChar c = letter := by
  unfold upperChar
  split
  · rename_i dotless
    subst dotless same
    exact absurd upper (by decide)
  · split
    · rename_i long
      subst long same
      exact absurd upper (by decide)
    · exact same

/-- The characters of reserved words are word characters and no digits. -/
theorem isWordChar_of_upperChar
    {c : Char}
    (upper : (upperChar c).isUpper = true) :
    isWordChar c = true ∧ c.isDigit = false := by
  unfold upperChar at upper
  split at upper
  · rename_i dotless
    subst dotless
    decide
  · split at upper
    · rename_i long
      subst long
      decide
    · refine ⟨?_, Bool.eq_false_iff.2 fun digit => ?_⟩
      · rw [← isWordChar_toUpper, isWordChar_of_isUpper upper]
      · rw [isUpper_toUpper_of_isDigit digit] at upper
        cases upper

theorem isSpacing_eq_false
    {c : Char}
    (notBlank : isBlank c = false) :
    isSpacing c = false := by
  have unlike : ∀ d, isBlank d = true → c ≠ d := by
    rintro d blank rfl
    rw [notBlank] at blank
    cases blank
  simp [isSpacing, unlike ' ' (by decide), unlike '\t' (by decide)]

theorem isDigit_eq_false
    {c : Char}
    (noWord : isWordChar c = false) :
    c.isDigit = false := by
  apply Bool.eq_false_iff.2
  intro digit
  rw [isWordChar_of_isDigit digit] at noWord
  cases noWord

theorem isBlank_of_isDelimiter
    {c : Char}
    (delimiter : isDelimiter c = true) :
    isBlank c = false := by
  have all : "()[]\x7b\x7d&^:,.-=><%!|+;/\\*~?@#'\"\x60".toList.all (!isBlank ·) = true := by
    decide
  simpa using List.all_eq_true.1 all c (List.contains_iff_mem.1 delimiter)

end Query
end FlatTables
