import FlatTables.Proofs.Decimal.Spelling

/-!
# Spelled real numbers

A decimal number is spelled by digits of any scripts, at least one, with at most one point before,
among or behind them, and perhaps an exponent. The texts that are read as real numbers are exactly
those that spell a decimal number behind an optional sign, and each is read as the double-precision
number nearest to it. There is no limit on the number of digits.
-/

namespace FlatTables
namespace Decimal

/-! ## Spellings -/

/-- A text is another one behind an optional sign. -/
inductive HasSign : List Char → Bool → List Char → Prop
  | unsigned (text : List Char) :
      HasSign text false text
  | plus (text : List Char) :
      HasSign ('+' :: text) false text
  | minus (text : List Char) :
      HasSign ('-' :: text) true text

/-- Digits of any scripts, if there are any, stand for a number: in base ten their values, the last
one first, are its digits and perhaps further zeros. -/
def SpellsDigits (digits : List Char) (n : Nat) : Prop :=
  ∃ values : List Nat,
    digits.map Text.digitValue? = values.map some ∧ Nat.ofDigits 10 values.reverse = n

/-- What may stand behind the digits of a decimal number: nothing, or an exponent. -/
inductive SpellsExponent : List Char → Int → Prop
  | absent :
      SpellsExponent [] 0
  | marked {mark : Char} {text digits : List Char} {negative : Bool} {n : Nat}
      (isMark : mark = 'e' ∨ mark = 'E')
      (hasSign : HasSign text negative digits)
      (nonempty : digits ≠ [])
      (spells : SpellsDigits digits n) :
      SpellsExponent (mark :: text) (signed negative n)

/-- A text without a sign stands for a decimal number. Each digit behind the point lowers the
exponent by one. -/
inductive SpellsScaled : List Char → Scaled → Prop
  | whole {digits rest : List Char} {n : Nat} {exponent : Int}
      (nonempty : digits ≠ [])
      (spells : SpellsDigits digits n)
      (ends : SpellsExponent rest exponent) :
      SpellsScaled (digits ++ rest) ⟨n, exponent⟩
  | pointed {digits fraction rest : List Char} {n : Nat} {exponent : Int}
      (nonempty : digits ++ fraction ≠ [])
      (spells : SpellsDigits (digits ++ fraction) n)
      (ends : SpellsExponent rest exponent) :
      SpellsScaled (digits ++ '.' :: (fraction ++ rest)) ⟨n, exponent - fraction.length⟩

/-- A text stands for the real number nearest to the decimal number it spells. -/
inductive SpellsReal : List Char → Binary64 → Prop
  | intro {text rest : List Char} {negative : Bool} {number : Scaled}
      (hasSign : HasSign text negative rest)
      (spells : SpellsScaled rest number) :
      SpellsReal text (number.toBinary64 negative)

/-! ## Signs -/

theorem hasSign_splitSign (text : List Char) :
    HasSign text (splitSign text).1 (splitSign text).2 := by
  unfold splitSign
  split
  · exact .plus _
  · exact .minus _
  · exact .unsigned _

/-- A sign is split off in one way only if no further sign stands behind it. -/
theorem HasSign.splitSign_eq
    {text rest : List Char}
    {negative : Bool}
    (hasSign : HasSign text negative rest)
    (noSign : ∀ c ∈ rest.head?, c ≠ '+' ∧ c ≠ '-') :
    splitSign text = (negative, rest) := by
  cases hasSign with
  | plus => rfl
  | minus => rfl
  | unsigned =>
      unfold splitSign
      split
      · exact absurd rfl (noSign '+' rfl).1
      · exact absurd rfl (noSign '-' rfl).2
      · rfl

theorem ne_sign_of_isDigit
    {c : Char}
    (digit : Text.isDigit c = true) :
    c ≠ '+' ∧ c ≠ '-' := by
  constructor <;>
  · rintro rfl
    revert digit
    decide

/-- A text that starts with a digit has no sign in front. -/
theorem ne_sign_of_digits
    {digits : List Char}
    (nonempty : digits ≠ [])
    (areDigits : digits.all Text.isDigit = true)
    (rest : List Char) :
    ∀ c ∈ (digits ++ rest).head?, c ≠ '+' ∧ c ≠ '-' := by
  intro c first
  rw [List.head?_append, Option.or_of_isSome (List.isSome_head?.2 nonempty)] at first
  exact ne_sign_of_isDigit (List.all_eq_true.1 areDigits c (List.mem_of_mem_head? first))

/-! ## Exponents -/

/-- What follows the digits is read as an exponent exactly if it spells it. -/
theorem readExponent?_eq_some_iff
    (text : List Char)
    (exponent : Int) :
    readExponent? text = some exponent ↔ SpellsExponent text exponent := by
  constructor
  · intro read
    cases text with
    | nil =>
        cases read
        exact .absent
    | cons mark rest =>
        simp only [readExponent?] at read
        split at read
        · rename_i shape
          obtain ⟨isMark, nonempty, areDigits⟩ := shape
          rw [← Option.some.inj read]
          exact .marked isMark (hasSign_splitSign rest) nonempty
            ((positional_iff _ _).2 ⟨areDigits, rfl⟩)
        · cases read
  · intro spells
    cases spells with
    | absent => rfl
    | marked isMark hasSign nonempty spells =>
        obtain ⟨areDigits, rfl⟩ := (positional_iff _ _).1 spells
        have noSign := ne_sign_of_digits nonempty areDigits []
        rw [List.append_nil] at noSign
        simp only [readExponent?, hasSign.splitSign_eq noSign]
        rw [if_pos ⟨isMark, nonempty, areDigits⟩]

/-- An exponent does not go on with a digit or a point. -/
theorem SpellsExponent.endsDigits
    {text : List Char}
    {exponent : Int}
    (spells : SpellsExponent text exponent) :
    EndsDigits text := by
  cases spells with
  | absent => exact endsDigits_nil
  | marked isMark hasSign nonempty spells => exact endsDigits_exponent isMark _

/-! ## Decimal numbers -/

/-- Whatever is read as a decimal number spells it. -/
theorem spellsScaled_of_readScaled?
    {text : List Char}
    {number : Scaled}
    (read : readScaled? text = some number) :
    SpellsScaled text number := by
  have whole := List.takeWhile_append_dropWhile (p := Text.isDigit) (l := text)
  have wholeDigits : (text.takeWhile Text.isDigit).all Text.isDigit = true :=
    List.all_takeWhile
  simp only [readScaled?] at read
  split at read
  · rename_i rest pointed
    have fraction := List.takeWhile_append_dropWhile (p := Text.isDigit) (l := rest)
    have fractionDigits : (rest.takeWhile Text.isDigit).all Text.isDigit = true :=
      List.all_takeWhile
    split at read
    · cases read
    · rename_i nonempty
      obtain ⟨exponent, readExponent, rfl⟩ := Option.map_eq_some_iff.1 read
      have someDigits : text.takeWhile Text.isDigit ++ rest.takeWhile Text.isDigit ≠ [] := by
        rwa [ne_eq, List.append_eq_nil_iff]
      have allDigits :
          (text.takeWhile Text.isDigit ++ rest.takeWhile Text.isDigit).all Text.isDigit = true := by
        rw [List.all_append, wholeDigits, fractionDigits]
        rfl
      have spells := SpellsScaled.pointed someDigits ((positional_iff _ _).2 ⟨allDigits, rfl⟩)
        ((readExponent?_eq_some_iff _ _).1 readExponent)
      rwa [fraction, ← pointed, whole] at spells
  · split at read
    · cases read
    · rename_i nonempty
      obtain ⟨exponent, readExponent, rfl⟩ := Option.map_eq_some_iff.1 read
      have spells := SpellsScaled.whole nonempty ((positional_iff _ _).2 ⟨wholeDigits, rfl⟩)
        ((readExponent?_eq_some_iff _ _).1 readExponent)
      rwa [whole] at spells

/-- A text is read as a decimal number exactly if it spells it. -/
theorem readScaled?_eq_some_iff
    (text : List Char)
    (number : Scaled) :
    readScaled? text = some number ↔ SpellsScaled text number := by
  refine ⟨spellsScaled_of_readScaled?, fun spells => ?_⟩
  cases spells with
  | whole nonempty spells ends =>
      obtain ⟨areDigits, rfl⟩ := (positional_iff _ _).1 spells
      rw [readScaled?_whole areDigits nonempty ends.endsDigits,
        (readExponent?_eq_some_iff _ _).2 ends, Option.map_some]
  | pointed nonempty spells ends =>
      obtain ⟨areDigits, rfl⟩ := (positional_iff _ _).1 spells
      rw [List.all_append, Bool.and_eq_true] at areDigits
      rw [ne_eq, List.append_eq_nil_iff] at nonempty
      rw [readScaled?_point areDigits.1 areDigits.2 nonempty ends.endsDigits,
        (readExponent?_eq_some_iff _ _).2 ends, Option.map_some]

/-- No sign stands in front of a decimal number. -/
theorem SpellsScaled.noSign
    {text : List Char}
    {number : Scaled}
    (spells : SpellsScaled text number) :
    ∀ c ∈ text.head?, c ≠ '+' ∧ c ≠ '-' := by
  cases spells with
  | whole nonempty spells ends =>
      exact ne_sign_of_digits nonempty ((positional_iff _ _).1 spells).1 _
  | pointed nonempty spells ends =>
      rename_i digits fraction rest n exponent
      by_cases bare : digits = []
      · rw [bare]
        intro c first
        cases first
        decide
      · have areDigits := ((positional_iff _ _).1 spells).1
        rw [List.all_append, Bool.and_eq_true] at areDigits
        exact ne_sign_of_digits bare areDigits.1 _

/-! ## Real numbers -/

/-- A text is read as a real number exactly if it spells it. -/
theorem readReal?_eq_some_iff
    (text : List Char)
    (x : Binary64) :
    readReal? text = some x ↔ SpellsReal text x := by
  simp only [readReal?, Option.map_eq_some_iff, readScaled?_eq_some_iff]
  constructor
  · rintro ⟨number, spells, rfl⟩
    exact .intro (hasSign_splitSign text) spells
  · rintro ⟨hasSign, spells⟩
    rw [hasSign.splitSign_eq spells.noSign]
    exact ⟨_, spells, rfl⟩

end Decimal
end FlatTables
