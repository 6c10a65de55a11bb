import FlatTables.Decimal.Text
import FlatTables.Proofs.Decimal.Rounding

/-!
# Written numbers read back

Every integer with a text and every finite real number is read back from its text, whatever its
layout. Infinities and not a number have texts that are no numbers. The text of a number holds
only digits, signs, points and letters, so it has no blanks and needs no escape.
-/

namespace FlatTables
namespace Decimal

/-! ## Digits -/

/-- A text of ASCII decimal digits. -/
def IsAsciiDigits (digits : List Char) : Prop :=
  ∀ c ∈ digits, c.isDigit

theorem IsAsciiDigits.append
    {first second : List Char}
    (firstDigits : IsAsciiDigits first)
    (secondDigits : IsAsciiDigits second) :
    IsAsciiDigits (first ++ second) := by
  intro c member
  rcases List.mem_append.1 member with inFirst | inSecond
  · exact firstDigits c inFirst
  · exact secondDigits c inSecond

theorem isAsciiDigits_digitsOf (n : Nat) : IsAsciiDigits (digitsOf n) :=
  fun _ member => Nat.isDigit_of_mem_toDigits (by decide) (by decide) member

theorem isAsciiDigits_replicate (count : Nat) : IsAsciiDigits (List.replicate count '0') := by
  intro c member
  rw [List.eq_of_mem_replicate member]
  rfl

theorem isAsciiDigits_take
    {digits : List Char}
    (ascii : IsAsciiDigits digits)
    (count : Nat) :
    IsAsciiDigits (digits.take count) :=
  fun c member => ascii c (List.mem_of_mem_take member)

theorem isAsciiDigits_drop
    {digits : List Char}
    (ascii : IsAsciiDigits digits)
    (count : Nat) :
    IsAsciiDigits (digits.drop count) :=
  fun c member => ascii c (List.mem_of_mem_drop member)

/-- An ASCII digit stands in the first range of decimal digits. -/
theorem digitValue?_of_isDigit
    {c : Char}
    (digit : c.isDigit) :
    Text.digitValue? c = some (c.toNat - '0'.toNat) := by
  have bounds : 48 ≤ c.toNat ∧ c.toNat ≤ 57 := by
    simpa [Char.isDigit, UInt32.le_iff_toNat_le] using digit
  have value : (c.toNat - 48) % 10 = c.toNat - 48 := Nat.mod_eq_of_lt (by omega)
  simp [Text.digitValue?, Text.digitRanges, bounds, value]

theorem isDigit_of_isDigit
    {c : Char}
    (digit : c.isDigit) :
    Text.isDigit c = true := by
  simp [Text.isDigit, digitValue?_of_isDigit digit]

theorem all_isDigit
    {digits : List Char}
    (ascii : IsAsciiDigits digits) :
    digits.all Text.isDigit = true :=
  List.all_eq_true.2 fun c member => isDigit_of_isDigit (ascii c member)

private theorem foldl_digitValue?
    {digits : List Char}
    (ascii : IsAsciiDigits digits)
    (start : Nat) :
    digits.foldl (fun number c => 10 * number + (Text.digitValue? c).getD 0) start =
      Nat.ofDigitChars 10 digits start := by
  induction digits generalizing start with
  | nil => rfl
  | cons c rest inductionHypothesis =>
      have first := digitValue?_of_isDigit (ascii c List.mem_cons_self)
      rw [List.foldl_cons, first, Option.getD_some, Nat.ofDigitChars_cons]
      exact inductionHypothesis (fun d member => ascii d (List.mem_cons_of_mem c member)) _

/-- The number of ASCII digits. -/
theorem numberOfDigits_eq
    {digits : List Char}
    (ascii : IsAsciiDigits digits) :
    Text.numberOfDigits digits = Nat.ofDigitChars 10 digits 0 :=
  foldl_digitValue? ascii 0

@[simp] theorem numberOfDigits_digitsOf (n : Nat) : Text.numberOfDigits (digitsOf n) = n := by
  rw [numberOfDigits_eq (isAsciiDigits_digitsOf n)]
  exact Nat.ofDigitChars_ten_toDigits

/-- Zeros in front of digits do not change their number. -/
theorem numberOfDigits_zeros_append
    {digits : List Char}
    (ascii : IsAsciiDigits digits)
    (zeros : Nat) :
    Text.numberOfDigits (List.replicate zeros '0' ++ digits) = Text.numberOfDigits digits := by
  rw [numberOfDigits_eq ((isAsciiDigits_replicate zeros).append ascii), numberOfDigits_eq ascii,
    Nat.ofDigitChars_append, Nat.ofDigitChars_replicate_zero, Nat.mul_zero]

/-- Zeros behind digits multiply their number. -/
theorem numberOfDigits_append_zeros
    {digits : List Char}
    (ascii : IsAsciiDigits digits)
    (zeros : Nat) :
    Text.numberOfDigits (digits ++ List.replicate zeros '0') =
      Text.numberOfDigits digits * 10 ^ zeros := by
  rw [numberOfDigits_eq (ascii.append (isAsciiDigits_replicate zeros)), numberOfDigits_eq ascii,
    Nat.ofDigitChars_append, Nat.ofDigitChars_replicate_zero, Nat.mul_comm]

theorem digitsOf_ne_nil (n : Nat) : digitsOf n ≠ [] :=
  Nat.toDigits_ne_nil

/-- A text that starts with a digit has no sign. -/
theorem splitSign_of_digits
    {digits rest : List Char}
    (ascii : IsAsciiDigits digits)
    (nonempty : digits ≠ []) :
    splitSign (digits ++ rest) = (false, digits ++ rest) := by
  cases digits with
  | nil => exact absurd rfl nonempty
  | cons c digits =>
      have first := ascii c List.mem_cons_self
      unfold splitSign
      split
      · rename_i equal
        cases List.cons.inj equal |>.1
        exact absurd first (by decide)
      · rename_i equal
        cases List.cons.inj equal |>.1
        exact absurd first (by decide)
      · rfl

/-! ## Integers -/

/-- An integer is read back from its text. -/
theorem readInteger?_of_integerText?
    {n : Int}
    {text : List Char}
    (written : integerText? n = some text) :
    readInteger? text = some n := by
  simp only [integerText?] at written
  split at written
  · rename_i short
    have ascii := isAsciiDigits_digitsOf n.natAbs
    have nonempty := digitsOf_ne_nil n.natAbs
    have unsigned := @splitSign_of_digits (digitsOf n.natAbs) [] ascii nonempty
    rw [List.append_nil] at unsigned
    split at written
    · rename_i negative
      cases written
      have value : (-(n.natAbs : Int)) = n := by omega
      simp only [readInteger?, splitSign, nonempty, all_isDigit ascii, short, signed, value,
        numberOfDigits_digitsOf, ne_eq, not_false_eq_true, and_self, if_true]
    · rename_i nonnegative
      cases written
      have value : (n.natAbs : Int) = n := by omega
      simp only [readInteger?, unsigned, nonempty, all_isDigit ascii, short, signed, value,
        numberOfDigits_digitsOf, ne_eq, not_false_eq_true, and_self, if_true,
        Bool.false_eq_true, if_false]
  · cases written

/-- The number that digits of any script denote has no more digits than they are. -/
theorem numberOfDigits_lt (digits : List Char) :
    Text.numberOfDigits digits < 10 ^ digits.length := by
  have fold : ∀ start, digits.foldl
      (fun number c => 10 * number + (Text.digitValue? c).getD 0) start <
        (start + 1) * 10 ^ digits.length := by
    induction digits with
    | nil => simp
    | cons c rest inductionHypothesis =>
        intro start
        have digitValue : (Text.digitValue? c).getD 0 ≤ 9 := by
          unfold Text.digitValue?
          cases Text.digitRanges.find? fun range => range.1 ≤ c.toNat && c.toNat ≤ range.2 with
          | none => simp
          | some range => simp only [Option.map_some, Option.getD_some]; omega
        calc
          _ < (10 * start + (Text.digitValue? c).getD 0 + 1) * 10 ^ rest.length :=
            inductionHypothesis _
          _ ≤ (10 * (start + 1)) * 10 ^ rest.length := Nat.mul_le_mul_right _ (by omega)
          _ = (start + 1) * 10 ^ (c :: rest).length := by
            rw [List.length_cons, Nat.pow_succ, Nat.mul_comm 10 (start + 1), Nat.mul_assoc,
              Nat.mul_comm 10 (10 ^ _)]
  simpa [Text.numberOfDigits] using fold 0

/-- An integer that was read has few enough digits to be written. -/
theorem integerText?_of_readInteger?
    {text : List Char}
    {n : Int}
    (read : readInteger? text = some n) :
    ∃ written, integerText? n = some written := by
  cases sign : splitSign text with
  | mk negative digits =>
      simp only [readInteger?, sign] at read
      split at read
      · rename_i shape
        obtain ⟨_, _, short⟩ := shape
        cases read
        have absolute : (signed negative (Text.numberOfDigits digits)).natAbs =
            Text.numberOfDigits digits := by
          unfold signed
          split <;> simp
        have few : (digitsOf (signed negative (Text.numberOfDigits digits)).natAbs).length ≤
            maxIntegerDigits := by
          rw [absolute, digitsOf, Nat.length_toDigits_le_iff (by decide) (by decide)]
          exact Nat.lt_of_lt_of_le (numberOfDigits_lt digits)
            (Nat.pow_le_pow_right (by decide) short)
        exact ⟨_, if_pos few⟩
      · cases read

/-! ## Decimal numbers -/

/-- What follows the digits of a decimal number does not go on with a digit or a point. -/
def EndsDigits (rest : List Char) : Prop :=
  ∀ c ∈ rest.head?, Text.isDigit c = false ∧ c ≠ '.'

theorem takeWhile_isDigit
    {digits rest : List Char}
    (areDigits : digits.all Text.isDigit = true)
    (ended : ∀ c ∈ rest.head?, Text.isDigit c = false) :
    (digits ++ rest).takeWhile Text.isDigit = digits := by
  rw [List.takeWhile_append_of_pos (List.all_eq_true.1 areDigits)]
  cases rest with
  | nil => simp
  | cons c rest => simp [ended c rfl]

theorem dropWhile_isDigit
    {digits rest : List Char}
    (areDigits : digits.all Text.isDigit = true)
    (ended : ∀ c ∈ rest.head?, Text.isDigit c = false) :
    (digits ++ rest).dropWhile Text.isDigit = rest := by
  rw [List.dropWhile_append_of_pos (List.all_eq_true.1 areDigits)]
  cases rest with
  | nil => simp
  | cons c rest => simp [ended c rfl]

/-- Digits without a point are read as they are. -/
theorem readScaled?_whole
    {whole rest : List Char}
    (areDigits : whole.all Text.isDigit = true)
    (nonempty : whole ≠ [])
    (ended : EndsDigits rest) :
    readScaled? (whole ++ rest) =
      (readExponent? rest).map fun exponent => ⟨Text.numberOfDigits whole, exponent⟩ := by
  have digitEnds : ∀ c ∈ rest.head?, Text.isDigit c = false := fun c head => (ended c head).1
  simp only [readScaled?, takeWhile_isDigit areDigits digitEnds,
    dropWhile_isDigit areDigits digitEnds, nonempty, if_false]
  cases rest with
  | nil => rfl
  | cons c rest =>
      split
      · rename_i equal
        exact absurd (List.cons.inj equal).1 (ended c rfl).2
      · rfl

/-- Digits behind a point lower the exponent. -/
theorem readScaled?_point
    {whole fraction rest : List Char}
    (wholeDigits : whole.all Text.isDigit = true)
    (fractionDigits : fraction.all Text.isDigit = true)
    (nonempty : ¬ (whole = [] ∧ fraction = []))
    (ended : EndsDigits rest) :
    readScaled? (whole ++ '.' :: (fraction ++ rest)) =
      (readExponent? rest).map fun exponent =>
        ⟨Text.numberOfDigits (whole ++ fraction), exponent - fraction.length⟩ := by
  have pointEnds : ∀ c ∈ ('.' :: (fraction ++ rest)).head?, Text.isDigit c = false := by
    intro c head
    cases head
    decide
  have digitEnds : ∀ c ∈ rest.head?, Text.isDigit c = false := fun c head => (ended c head).1
  simp only [readScaled?, takeWhile_isDigit wholeDigits pointEnds,
    dropWhile_isDigit wholeDigits pointEnds, takeWhile_isDigit fractionDigits digitEnds,
    dropWhile_isDigit fractionDigits digitEnds, nonempty, if_false]

theorem endsDigits_nil : EndsDigits [] := by
  intro c head
  cases head

theorem endsDigits_exponent
    {mark : Char}
    (isMark : mark = 'e' ∨ mark = 'E')
    (rest : List Char) :
    EndsDigits (mark :: rest) := by
  intro c head
  cases head
  rcases isMark with rfl | rfl <;> decide

/-- The exponent of a written number is read back. -/
theorem readExponent?_written
    (exponent : Int)
    (zeros : Nat) :
    readExponent? ('e' :: (if exponent < 0 then '-' else '+') ::
        (List.replicate zeros '0' ++ digitsOf exponent.natAbs)) = some exponent := by
  have ascii := (isAsciiDigits_replicate zeros).append (isAsciiDigits_digitsOf exponent.natAbs)
  have nonempty : List.replicate zeros '0' ++ digitsOf exponent.natAbs ≠ [] := by
    simp [digitsOf_ne_nil]
  have number := numberOfDigits_zeros_append (isAsciiDigits_digitsOf exponent.natAbs) zeros
  rw [numberOfDigits_digitsOf] at number
  split
  · have value : (-(exponent.natAbs : Int)) = exponent := by omega
    simp only [readExponent?, splitSign, nonempty, all_isDigit ascii, number, signed, value,
      true_or, ne_eq, not_false_eq_true, and_self, if_true]
  · have value : (exponent.natAbs : Int) = exponent := by omega
    simp only [readExponent?, splitSign, nonempty, all_isDigit ascii, number, signed, value,
      true_or, ne_eq, not_false_eq_true, and_self, if_true, Bool.false_eq_true, if_false]

/-! ## Real numbers -/

/-- A number written without an exponent is read as that number, perhaps with zeros behind its
digits. -/
theorem readScaled?_positional (number : Scaled) :
    ∃ read, readScaled? (positional (digitsOf number.digits) number.point) = some read ∧
      read.nearest? = number.nearest? := by
  obtain ⟨n, exponent⟩ := number
  have ascii := isAsciiDigits_digitsOf n
  have nonempty := digitsOf_ne_nil n
  have point : (⟨n, exponent⟩ : Scaled).point = (digitsOf n).length + exponent := rfl
  simp only [point]
  generalize lengthEq : (digitsOf n).length = length
  have lengthPositive : 0 < length := lengthEq ▸ List.length_pos_iff.2 nonempty
  have noExponent : readExponent? [] = some 0 := rfl
  unfold positional
  split
  · -- All digits stand behind the point.
    rename_i low
    have fractionAscii := (isAsciiDigits_replicate (-(length + exponent)).toNat).append ascii
    have read := @readScaled?_point ['0'] _ [] (by decide) (all_isDigit fractionAscii)
      (by simp) endsDigits_nil
    have value : Text.numberOfDigits
        (['0'] ++ (List.replicate (-(length + exponent)).toNat '0' ++ digitsOf n)) = n := by
      rw [← List.append_assoc, ← List.replicate_one, List.replicate_append_replicate,
        numberOfDigits_zeros_append ascii, numberOfDigits_digitsOf]
    have places : (0 : Int) -
        (List.replicate (-(length + exponent)).toNat '0' ++ digitsOf n).length = exponent := by
      simp only [List.length_append, List.length_replicate, lengthEq]
      omega
    rw [value, List.append_nil, noExponent, Option.map_some, places] at read
    exact ⟨⟨n, exponent⟩, read, rfl⟩
  · rename_i high
    split
    · -- Zeros fill the places up to the point, and one more stands behind it.
      rename_i whole
      have zeros : (length + exponent).toNat - length = exponent.toNat := by omega
      have wholeAscii := ascii.append (isAsciiDigits_replicate exponent.toNat)
      have read := readScaled?_point (all_isDigit wholeAscii)
        (all_isDigit (isAsciiDigits_replicate 1)) (by simp [nonempty]) endsDigits_nil
      have value : Text.numberOfDigits
          (digitsOf n ++ List.replicate exponent.toNat '0' ++ List.replicate 1 '0') =
            n * 10 ^ (exponent.toNat + 1) := by
        rw [List.append_assoc, List.replicate_append_replicate, numberOfDigits_append_zeros ascii,
          numberOfDigits_digitsOf]
      have padded := Scaled.nearest?_mul_pow_ten n exponent (exponent.toNat + 1)
      have places : exponent - ((exponent.toNat + 1 : Nat) : Int) = -1 := by omega
      rw [value, noExponent, Option.map_some] at read
      rw [places] at padded
      rw [lengthEq, zeros]
      exact ⟨_, read, padded⟩
    · -- The point stands among the digits.
      rename_i among
      have read := readScaled?_point
        (all_isDigit (isAsciiDigits_take ascii (length + exponent).toNat))
        (all_isDigit (isAsciiDigits_drop ascii (length + exponent).toNat))
        (by simp [nonempty]; omega) endsDigits_nil
      have places :
          (0 : Int) - ((digitsOf n).drop (length + exponent).toNat).length = exponent := by
        simp only [List.length_drop, lengthEq]
        omega
      rw [List.take_append_drop, numberOfDigits_digitsOf, List.append_nil, noExponent,
        Option.map_some, places] at read
      exact ⟨⟨n, exponent⟩, read, rfl⟩

/-- A number written with an exponent is read as that number. -/
theorem readScaled?_scientific
    (width : Nat)
    (number : Scaled) :
    readScaled? (scientific width (digitsOf number.digits) number.point) = some number := by
  obtain ⟨n, exponent⟩ := number
  have ascii := isAsciiDigits_digitsOf n
  have nonempty := digitsOf_ne_nil n
  have point : (⟨n, exponent⟩ : Scaled).point = (digitsOf n).length + exponent := rfl
  have exponentRead := readExponent?_written ((digitsOf n).length + exponent - 1)
    (width - (digitsOf ((digitsOf n).length + exponent - 1).natAbs).length)
  have lengthPositive := List.length_pos_iff.2 nonempty
  simp only [point, scientific]
  by_cases single : (digitsOf n).length ≤ 1
  · have whole : (digitsOf n).take 1 = digitsOf n := List.take_of_length_le single
    have places : ((digitsOf n).length : Int) + exponent - 1 = exponent := by omega
    rw [if_pos single, List.append_nil, whole,
      readScaled?_whole (all_isDigit ascii) nonempty (endsDigits_exponent (.inl rfl) _),
      exponentRead, Option.map_some,
      numberOfDigits_digitsOf, places]
  · have places : ((digitsOf n).length : Int) + exponent - 1 - ((digitsOf n).drop 1).length =
        exponent := by
      simp only [List.length_drop]
      omega
    rw [if_neg single, List.append_assoc, List.cons_append,
      readScaled?_point (all_isDigit (isAsciiDigits_take ascii 1))
        (all_isDigit (isAsciiDigits_drop ascii 1)) (by simp [nonempty])
        (endsDigits_exponent (.inl rfl) _),
      exponentRead, Option.map_some, List.take_append_drop, numberOfDigits_digitsOf, places]

/-- The text of a magnitude is read as a number that goes to the magnitude. -/
theorem readScaled?_magnitudeText
    (style : RealStyle)
    (magnitude : Magnitude) :
    ∃ read, readScaled? (magnitudeText style magnitude) = some read ∧
      read.nearest? = some magnitude := by
  have shortest := Magnitude.nearest?_shortest magnitude
  by_cases isZero : magnitude.shortest.digits = 0
  · refine ⟨⟨0, -1⟩, ?_, ?_⟩
    · simp only [magnitudeText, isZero, if_true]
      decide
    · rw [← shortest]
      simp [Scaled.nearest?, isZero]
  · simp only [magnitudeText, isZero, if_false]
    split
    · rw [← shortest]
      exact readScaled?_positional _
    · exact ⟨_, readScaled?_scientific _ _, shortest⟩

/-- The text of a magnitude starts with a digit. -/
theorem splitSign_magnitudeText
    (style : RealStyle)
    (magnitude : Magnitude) :
    splitSign (magnitudeText style magnitude) = (false, magnitudeText style magnitude) := by
  have ascii := isAsciiDigits_digitsOf magnitude.shortest.digits
  have nonempty := digitsOf_ne_nil magnitude.shortest.digits
  by_cases isZero : magnitude.shortest.digits = 0
  · simp only [magnitudeText, isZero, if_true]
    rfl
  · simp only [magnitudeText, isZero, if_false]
    split
    · unfold positional
      split
      · rfl
      · split
        · rw [List.append_assoc]
          exact splitSign_of_digits ascii nonempty
        · refine splitSign_of_digits (isAsciiDigits_take ascii _) ?_
          simp only [ne_eq, List.take_eq_nil_iff, nonempty, or_false]
          omega
    · rw [scientific, List.append_assoc]
      exact splitSign_of_digits (isAsciiDigits_take ascii 1) (by simp [nonempty])

/-- A finite real number is read back from its text. -/
theorem readReal?_realText_finite
    (negative : Bool)
    (magnitude : Magnitude) :
    readReal? (realText (.finite negative magnitude)) = some (.finite negative magnitude) := by
  obtain ⟨read, scaled, nearest⟩ := readScaled?_magnitudeText realStyle magnitude
  cases negative with
  | false =>
      simp [readReal?, realText, splitSign_magnitudeText, scaled, Scaled.toBinary64, nearest]
  | true => simp [readReal?, realText, splitSign, scaled, Scaled.toBinary64, nearest]

/-- The text of an infinity is no number. -/
theorem readReal?_realText_infinite (negative : Bool) :
    readReal? (realText (.infinite negative)) = none := by
  cases negative <;> decide

theorem readReal?_realText_nan : readReal? (realText .nan) = none := by
  decide

/-- A real number is read back from its text exactly if it is finite. -/
theorem readReal?_realText
    (number result : Binary64) :
    readReal? (realText number) = some result ↔
      (∃ negative magnitude, number = .finite negative magnitude) ∧ result = number := by
  cases number with
  | finite negative magnitude => simp [readReal?_realText_finite, eq_comm]
  | infinite negative => simp [readReal?_realText_infinite]
  | nan => simp [readReal?_realText_nan]

/-! ## Characters of numbers -/

/-- A character that occurs in the text of a number. -/
def IsNumberChar (c : Char) : Prop :=
  c.isDigit ∨ c ∈ ['+', '-', '.', 'e', 'i', 'n', 'f', 'a']

theorem IsAsciiDigits.isNumberChar
    {digits : List Char}
    (ascii : IsAsciiDigits digits) :
    ∀ c ∈ digits, IsNumberChar c :=
  fun c member => .inl (ascii c member)

theorem isNumberChar_integerText?
    {n : Int}
    {text : List Char}
    (written : integerText? n = some text) :
    text ≠ [] ∧ ∀ c ∈ text, IsNumberChar c := by
  have digits := (isAsciiDigits_digitsOf n.natAbs).isNumberChar
  simp only [integerText?] at written
  split at written
  · cases written
    split
    · refine ⟨by simp, ?_⟩
      rintro c (_ | ⟨_, member⟩)
      · exact .inr (by decide)
      · exact digits c member
    · exact ⟨digitsOf_ne_nil _, digits⟩
  · cases written

theorem isNumberChar_positional
    {digits : List Char}
    (ascii : IsAsciiDigits digits)
    (point : Int) :
    ∀ c ∈ positional digits point, IsNumberChar c := by
  intro c member
  have pointChar : IsNumberChar '.' := .inr (by decide)
  have zeroChar : IsNumberChar '0' := .inl rfl
  have zeros : ∀ count, c ∈ List.replicate count '0' → IsNumberChar c := fun count zero =>
    (isAsciiDigits_replicate count).isNumberChar c zero
  unfold positional at member
  split at member
  · simp only [List.mem_cons, List.mem_append] at member
    rcases member with rfl | rfl | zero | digit
    · exact zeroChar
    · exact pointChar
    · exact zeros _ zero
    · exact ascii.isNumberChar c digit
  · split at member
    · simp only [List.mem_append, List.mem_cons, List.not_mem_nil, or_false] at member
      rcases member with (digit | zero) | rfl | rfl
      · exact ascii.isNumberChar c digit
      · exact zeros _ zero
      · exact pointChar
      · exact zeroChar
    · simp only [List.mem_append, List.mem_cons] at member
      rcases member with digit | rfl | digit
      · exact ascii.isNumberChar c (List.mem_of_mem_take digit)
      · exact pointChar
      · exact ascii.isNumberChar c (List.mem_of_mem_drop digit)

theorem isNumberChar_scientific
    {digits : List Char}
    (ascii : IsAsciiDigits digits)
    (width : Nat)
    (point : Int) :
    ∀ c ∈ scientific width digits point, IsNumberChar c := by
  intro c member
  simp only [scientific, List.mem_append, List.mem_cons] at member
  rcases member with (digit | fraction) | rfl | rfl | zero | digit
  · exact ascii.isNumberChar c (List.mem_of_mem_take digit)
  · split at fraction
    · cases fraction
    · rcases List.mem_cons.1 fraction with rfl | digit
      · exact .inr (by decide)
      · exact ascii.isNumberChar c (List.mem_of_mem_drop digit)
  · exact .inr (by decide)
  · split <;> exact .inr (by decide)
  · exact (isAsciiDigits_replicate _).isNumberChar c zero
  · exact (isAsciiDigits_digitsOf _).isNumberChar c digit

theorem isNumberChar_magnitudeText
    (style : RealStyle)
    (magnitude : Magnitude) :
    ∀ c ∈ magnitudeText style magnitude, IsNumberChar c := by
  have ascii := isAsciiDigits_digitsOf magnitude.shortest.digits
  by_cases isZero : magnitude.shortest.digits = 0
  · simp only [magnitudeText, isZero, if_true]
    rintro c (_ | ⟨_, _ | ⟨_, _ | ⟨_, none⟩⟩⟩)
    · exact .inl rfl
    · exact .inr (by decide)
    · exact .inl rfl
    · cases none
  · simp only [magnitudeText, isZero, if_false]
    split
    · exact isNumberChar_positional ascii _
    · exact isNumberChar_scientific ascii _ _

theorem magnitudeText_ne_nil
    (style : RealStyle)
    (magnitude : Magnitude) :
    magnitudeText style magnitude ≠ [] := by
  obtain ⟨read, scaled, _⟩ := readScaled?_magnitudeText style magnitude
  intro empty
  rw [empty] at scaled
  cases scaled

theorem isNumberChar_realText (number : Binary64) :
    realText number ≠ [] ∧ ∀ c ∈ realText number, IsNumberChar c := by
  cases number with
  | finite negative magnitude =>
      have digits := isNumberChar_magnitudeText realStyle magnitude
      cases negative with
      | false => exact ⟨magnitudeText_ne_nil _ _, digits⟩
      | true =>
          refine ⟨by simp [realText], ?_⟩
          rintro c (_ | ⟨_, member⟩)
          · exact .inr (by decide)
          · exact digits c member
  | infinite negative =>
      have letters : realText (.infinite negative) ⊆ ['+', '-', '.', 'e', 'i', 'n', 'f', 'a'] := by
        cases negative <;> decide
      exact ⟨by cases negative <;> decide, fun c member => .inr (letters member)⟩
  | nan =>
      have letters : realText .nan ⊆ ['+', '-', '.', 'e', 'i', 'n', 'f', 'a'] := by decide
      exact ⟨by decide, fun c member => .inr (letters member)⟩

end Decimal
end FlatTables
