import FlatTables.Proofs.Decimal.ReadBack
import FlatTables.Proofs.Text.CodeRanges
import Mathlib.Data.Nat.Digits.Defs

/-!
# Spelled integers

An integer is spelled by decimal digits of any scripts in positional notation, zeros in front
included, behind an optional sign. The texts that are read as integers are exactly those that spell
one with not too many digits, and each is read as the integer it spells.
-/

namespace FlatTables

/-! ## Digits and blanks -/

namespace Text

/-- No decimal digit of any script is a blank. -/
theorem isBlank_of_isDigit
    {c : Char}
    (digit : isDigit c = true) :
    isBlank c = false := by
  have apart : digitRanges.all (fun own => blankRanges.all fun other =>
      own.2 < other.1 || other.2 < own.1) = true := by decide
  rw [isDigit, digitValue?, Option.isSome_map] at digit
  obtain ⟨own, found⟩ := Option.isSome_iff_exists.1 digit
  have bounds := List.find?_some found
  rw [Bool.eq_false_iff]
  intro blank
  obtain ⟨other, member, lower, upper⟩ := CodeRanges.exists_range blank
  have disjoint := List.all_eq_true.1 (List.all_eq_true.1 apart own (List.mem_of_find?_eq_some found))
    other member
  simp only [Bool.and_eq_true, Bool.or_eq_true, decide_eq_true_eq] at bounds disjoint
  omega

end Text

namespace Decimal

/-! ## Spellings -/

/-- Digits stand for a number: in base ten their values, the last one first, are its digits and
perhaps further zeros. -/
structure SpellsNatural (digits : List Char) (n : Nat) : Prop where
  nonempty : digits ≠ []
  short : digits.length ≤ maxIntegerDigits
  positional : ∃ values : List Nat,
    digits.map Text.digitValue? = values.map some ∧ Nat.ofDigits 10 values.reverse = n

/-- Digits with an optional sign stand for an integer. -/
inductive SpellsInteger : List Char → Int → Prop
  | unsigned {digits : List Char} {n : Nat} (spells : SpellsNatural digits n) :
      SpellsInteger digits n
  | plus {digits : List Char} {n : Nat} (spells : SpellsNatural digits n) :
      SpellsInteger ('+' :: digits) n
  | minus {digits : List Char} {n : Nat} (spells : SpellsNatural digits n) :
      SpellsInteger ('-' :: digits) (-n)

/-! ## Digits -/

/-- Reading digits from the front gives the number they have in positional notation. -/
theorem numberOfDigits_eq_ofDigits
    {digits : List Char}
    {values : List Nat}
    (valuesEq : digits.map Text.digitValue? = values.map some) :
    Text.numberOfDigits digits = Nat.ofDigits 10 values.reverse := by
  -- What was read before counts ten times more for every digit that follows.
  have fold : ∀ start, digits.foldl
      (fun number c => 10 * number + (Text.digitValue? c).getD 0) start =
        start * 10 ^ values.length + Nat.ofDigits 10 values.reverse := by
    induction values generalizing digits with
    | nil => simp [List.map_eq_nil_iff.1 valuesEq]
    | cons value values inductionHypothesis =>
        obtain ⟨c, rest, rfl, first, others⟩ := List.map_eq_cons_iff.1 valuesEq
        intro start
        rw [List.foldl_cons, first, Option.getD_some, inductionHypothesis others,
          List.reverse_cons, Nat.ofDigits_append, Nat.ofDigits_singleton, List.length_reverse,
          List.length_cons]
        ring
  rw [Text.numberOfDigits, fold, Nat.zero_mul, Nat.zero_add]

/-- Values of digits can be given exactly for a text of digits, and they make up its number. -/
theorem positional_iff
    (digits : List Char)
    (n : Nat) :
    (∃ values : List Nat,
        digits.map Text.digitValue? = values.map some ∧ Nat.ofDigits 10 values.reverse = n) ↔
      digits.all Text.isDigit = true ∧ Text.numberOfDigits digits = n := by
  constructor
  · rintro ⟨values, valuesEq, rfl⟩
    refine ⟨List.all_eq_true.2 fun c member => ?_, numberOfDigits_eq_ofDigits valuesEq⟩
    obtain ⟨value, _, digit⟩ := List.mem_map.1 (valuesEq ▸ List.mem_map_of_mem member)
    rw [Text.isDigit, ← digit, Option.isSome_some]
  · rintro ⟨areDigits, rfl⟩
    have valuesEq : digits.map Text.digitValue? =
        (digits.map fun c => (Text.digitValue? c).getD 0).map some := by
      rw [List.map_map]
      refine List.map_congr_left fun c member => ?_
      obtain ⟨value, digit⟩ := Option.isSome_iff_exists.1 (List.all_eq_true.1 areDigits c member)
      rw [Function.comp_apply, digit, Option.getD_some]
    exact ⟨_, valuesEq, (numberOfDigits_eq_ofDigits valuesEq).symm⟩

/-- A text stands for a number exactly if it is made of digits, of which there are some and not
too many. -/
theorem spellsNatural_iff
    (digits : List Char)
    (n : Nat) :
    SpellsNatural digits n ↔
      (digits ≠ [] ∧ digits.all Text.isDigit ∧ digits.length ≤ maxIntegerDigits) ∧
        Text.numberOfDigits digits = n := by
  constructor
  · rintro ⟨nonempty, short, positional⟩
    obtain ⟨areDigits, number⟩ := (positional_iff digits n).1 positional
    exact ⟨⟨nonempty, areDigits, short⟩, number⟩
  · rintro ⟨⟨nonempty, areDigits, short⟩, number⟩
    exact ⟨nonempty, short, (positional_iff digits n).2 ⟨areDigits, number⟩⟩

/-! ## Signs -/

/-- A text without a sign starts with none of the two. -/
theorem splitSign_of_spellsNatural
    {digits : List Char}
    {n : Nat}
    (spells : SpellsNatural digits n) :
    splitSign digits = (false, digits) := by
  have areDigits := ((spellsNatural_iff digits n).1 spells).1.2.1
  unfold splitSign
  split
  · exact absurd areDigits (by simp [show Text.isDigit '+' = false by decide])
  · exact absurd areDigits (by simp [show Text.isDigit '-' = false by decide])
  · rfl

/-- A text is split into a sign, if it has one, and the rest. -/
theorem splitSign_cases (s : List Char) :
    s = '+' :: (splitSign s).2 ∧ (splitSign s).1 = false ∨
      s = '-' :: (splitSign s).2 ∧ (splitSign s).1 = true ∨
      s = (splitSign s).2 ∧ (splitSign s).1 = false := by
  unfold splitSign
  split
  · exact .inl ⟨rfl, rfl⟩
  · exact .inr (.inl ⟨rfl, rfl⟩)
  · exact .inr (.inr ⟨rfl, rfl⟩)

/-- The digits behind the sign decide whether a text can be read, and as what. -/
theorem readInteger?_eq_some_iff_splitSign
    (s : List Char)
    (n : Int) :
    readInteger? s = some n ↔
      ∃ magnitude, SpellsNatural (splitSign s).2 magnitude ∧
        signed (splitSign s).1 magnitude = n := by
  simp only [readInteger?, spellsNatural_iff]
  constructor
  · intro read
    split at read
    · rename_i readable
      exact ⟨_, ⟨readable, rfl⟩, Option.some.inj read⟩
    · cases read
  · rintro ⟨magnitude, ⟨readable, rfl⟩, rfl⟩
    rw [if_pos readable]

/-- A text is read as an integer exactly if it spells it. -/
theorem readInteger?_eq_some_iff
    (s : List Char)
    (n : Int) :
    readInteger? s = some n ↔ SpellsInteger s n := by
  rw [readInteger?_eq_some_iff_splitSign]
  constructor
  · rintro ⟨magnitude, spells, rfl⟩
    rcases splitSign_cases s with ⟨split, sign⟩ | ⟨split, sign⟩ | ⟨split, sign⟩
    · rw [sign]
      exact split ▸ .plus spells
    · rw [sign]
      exact split ▸ .minus spells
    · rw [sign]
      exact split ▸ .unsigned spells
  · intro spells
    cases spells with
    | unsigned spells =>
        rw [splitSign_of_spellsNatural spells]
        exact ⟨_, spells, rfl⟩
    | plus spells => exact ⟨_, spells, rfl⟩
    | minus spells => exact ⟨_, spells, rfl⟩

/-- The spelling of an integer holds digits and a sign only. -/
theorem SpellsInteger.isDigit_or_sign
    {s : List Char}
    {n : Int}
    (spells : SpellsInteger s n) :
    ∀ c ∈ s, Text.isDigit c = true ∨ c = '+' ∨ c = '-' := by
  have areDigits : ∀ {digits : List Char} {magnitude : Nat}, SpellsNatural digits magnitude →
      ∀ c ∈ digits, Text.isDigit c = true := fun own =>
    List.all_eq_true.1 ((spellsNatural_iff ..).1 own).1.2.1
  intro c member
  cases spells with
  | unsigned own => exact .inl (areDigits own c member)
  | plus own =>
      rcases List.mem_cons.1 member with rfl | inDigits
      · exact .inr (.inl rfl)
      · exact .inl (areDigits own c inDigits)
  | minus own =>
      rcases List.mem_cons.1 member with rfl | inDigits
      · exact .inr (.inr rfl)
      · exact .inl (areDigits own c inDigits)

end Decimal
end FlatTables
