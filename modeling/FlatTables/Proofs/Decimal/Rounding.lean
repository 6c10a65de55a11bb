import FlatTables.Decimal.Shortest
import Mathlib.Tactic.NormNum

/-!
# Rounding depends on the value alone

A ratio and its multiples go to the same magnitude, and so do a decimal number and the same
number with zeros behind its digits. A ratio that is a magnitude goes to that magnitude. The
shortest decimal of a magnitude therefore goes back to it, whether one of the candidates was
found or the exact expansion was taken.
-/

namespace FlatTables
namespace Decimal

/-! ## Units

How many units there are is a power too large to be written out, so it is only spoken of by name. -/

theorem unitsPerOne_pos : 0 < unitsPerOne := by
  decide +kernel

theorem tensPerUnit_pos : 0 < Magnitude.tensPerUnit := by
  decide +kernel

/-- Both kinds of units are powers with the same exponent. -/
theorem ten_pow_eq : 10 ^ (1073 + 1) = unitsPerOne * Magnitude.tensPerUnit := by
  decide +kernel

/-! ## Ratios -/

/-- The nearest integer of a ratio is that of every multiple of it. -/
theorem divideNearest_mul_right
    (numerator denominator : Nat)
    {factor : Nat}
    (factorPositive : 0 < factor) :
    divideNearest (numerator * factor) (denominator * factor) =
      divideNearest numerator denominator := by
  have quotient : numerator * factor / (denominator * factor) = numerator / denominator :=
    Nat.mul_div_mul_right _ _ factorPositive
  have twice : 2 * (numerator * factor % (denominator * factor)) =
      2 * (numerator % denominator) * factor := by
    rw [Nat.mul_mod_mul_right, Nat.mul_assoc]
  simp only [divideNearest, quotient, twice, Nat.mul_lt_mul_right factorPositive]

/-- A multiple of the denominator is divided without rounding. -/
theorem divideNearest_mul_self
    (quotient : Nat)
    {denominator : Nat}
    (denominatorPositive : 0 < denominator) :
    divideNearest (quotient * denominator) denominator = quotient := by
  simp [divideNearest, Nat.mul_div_cancel _ denominatorPositive, denominatorPositive]

/-- The binary exponent of a ratio is that of every multiple of it. -/
theorem shiftOf_mul_right
    (numerator denominator : Nat)
    {factor : Nat}
    (factorPositive : 0 < factor) :
    shiftOf (numerator * factor) (denominator * factor) = shiftOf numerator denominator := by
  simp only [shiftOf, Nat.mul_right_comm numerator factor,
    Nat.mul_div_mul_right _ _ factorPositive]

/-- A ratio and its multiples have the same nearest magnitude. -/
theorem nearest?_mul_right
    (numerator denominator : Nat)
    {factor : Nat}
    (factorPositive : 0 < factor) :
    nearest? (numerator * factor) (denominator * factor) = nearest? numerator denominator := by
  simp only [nearest?, shiftOf_mul_right _ _ factorPositive,
    Nat.mul_right_comm _ factor, divideNearest_mul_right _ _ factorPositive]

namespace Magnitude

/-- Below `2 ^ 52` a magnitude counts units; above, its number is recovered from its shift and
its significand. -/
theorem shift_mul_add_significand (magnitude : Magnitude) :
    magnitude.shift * binadeSize + magnitude.significand = magnitude.val := by
  have parts := Nat.div_add_mod magnitude.val binadeSize
  by_cases small : magnitude.val < binadeSize
  · simp [shift, significand, small, Nat.div_eq_of_lt small]
  · have large : 1 ≤ magnitude.val / binadeSize :=
      (Nat.one_le_div_iff (by decide)).2 (Nat.le_of_not_lt small)
    simp only [shift, significand, small, if_false]
    rw [Nat.sub_mul, ← Nat.add_assoc, Nat.one_mul,
      Nat.sub_add_cancel (Nat.le_mul_of_pos_left _ large), Nat.mul_comm]
    exact parts

theorem significand_lt (magnitude : Magnitude) : magnitude.significand < 2 ^ 53 := by
  have part : magnitude.val % binadeSize < binadeSize := Nat.mod_lt _ (by decide)
  have size : binadeSize = 2 ^ 52 := rfl
  unfold significand
  split <;> omega

theorem shift_le (magnitude : Magnitude) : magnitude.shift ≤ 2045 := by
  have bound : magnitude.val / binadeSize < 0x7FF :=
    Nat.div_lt_of_lt_mul (by simpa [magnitudeCount, Nat.mul_comm] using magnitude.isLt)
  simp only [shift]
  omega

theorem significand_pos
    {magnitude : Magnitude}
    (nonzero : magnitude.val ≠ 0) :
    0 < magnitude.significand := by
  have size : binadeSize = 2 ^ 52 := rfl
  unfold significand
  split <;> omega

/-- A significand with a shift above it has its leading bit at `2 ^ 52`. -/
theorem shift_eq_log2
    {magnitude : Magnitude}
    (nonzero : magnitude.val ≠ 0) :
    (magnitude.significand * 2 ^ magnitude.shift).log2 - 52 = magnitude.shift := by
  have positive := significand_pos nonzero
  by_cases small : magnitude.shift = 0
  · have bound : magnitude.significand.log2 < 53 :=
      (Nat.log2_lt (Nat.pos_iff_ne_zero.1 positive)).2 magnitude.significand_lt
    simp only [small, Nat.pow_zero, Nat.mul_one]
    omega
  · have lower : 2 ^ 52 ≤ magnitude.significand := by
      have large : ¬ magnitude.val < binadeSize := fun bound =>
        small (by simp [shift, Nat.div_eq_of_lt bound])
      rw [significand, if_neg large]
      exact Nat.le_add_right _ _
    have upper := magnitude.significand_lt
    have leading :
        (magnitude.significand * 2 ^ magnitude.shift).log2 = 52 + magnitude.shift := by
      rw [Nat.log2_eq_iff (Nat.mul_pos positive (Nat.two_pow_pos _)).ne']
      constructor
      · rw [Nat.pow_add]
        exact Nat.mul_le_mul_right _ lower
      · rw [show 52 + magnitude.shift + 1 = 53 + magnitude.shift by omega, Nat.pow_add]
        exact Nat.mul_lt_mul_of_pos_right upper (Nat.two_pow_pos _)
    omega

theorem ratio_eq (magnitude : Magnitude) :
    magnitude.ratio = (magnitude.significand * 2 ^ magnitude.shift, unitsPerOne) := rfl

/-- The value of a magnitude goes to that magnitude. -/
theorem nearest?_ratio
    {magnitude : Magnitude}
    (nonzero : magnitude.val ≠ 0) :
    Decimal.nearest? magnitude.ratio.1 magnitude.ratio.2 = some magnitude := by
  have shiftOf_ratio : shiftOf magnitude.ratio.1 magnitude.ratio.2 = magnitude.shift := by
    rw [ratio_eq, shiftOf, Nat.mul_div_cancel _ unitsPerOne_pos]
    exact shift_eq_log2 nonzero
  have quotient : divideNearest (magnitude.ratio.1 * unitsPerOne)
      (magnitude.ratio.2 * 2 ^ magnitude.shift) = magnitude.significand := by
    simp only [ratio_eq]
    rw [Nat.mul_assoc, Nat.mul_comm (2 ^ magnitude.shift)]
    exact divideNearest_mul_self _ (Nat.mul_pos unitsPerOne_pos (Nat.two_pow_pos _))
  simp only [Decimal.nearest?, Nat.pow_eq, shiftOf_ratio, quotient, shift_mul_add_significand,
    ofNat?, magnitude.isLt, dite_true]

end Magnitude

/-! ## Decimal numbers -/

/-- A positive number times ten has one digit more. -/
theorem lengthOf_mul_ten
    {n : Nat}
    (positive : 0 < n) :
    lengthOf (n * 10) = lengthOf n + 1 := by
  have large : 10 ≤ n * 10 := Nat.le_mul_of_pos_left 10 positive
  rw [lengthOf, digitsOf, Nat.toDigits_of_base_le (by decide) large,
    Nat.mul_div_cancel _ (by decide), List.length_append]
  rfl

theorem lengthOf_le_iff
    (n : Nat)
    {length : Nat}
    (positive : 0 < length) :
    lengthOf n ≤ length ↔ n < 10 ^ length :=
  Nat.length_toDigits_le_iff (by decide) positive

namespace Scaled

theorem ratio_ofNat (digits n : Nat) :
    (⟨digits, .ofNat n⟩ : Scaled).ratio = (digits * 10 ^ n, 1) := rfl

theorem ratio_negSucc (digits n : Nat) :
    (⟨digits, .negSucc n⟩ : Scaled).ratio = (digits, 10 ^ (n + 1)) := rfl

/-- One zero behind the digits does not change the nearest magnitude. -/
theorem nearest?_mul_ten
    (digits : Nat)
    (exponent : Int) :
    (⟨digits * 10, exponent - 1⟩ : Scaled).nearest? = (⟨digits, exponent⟩ : Scaled).nearest? := by
  rcases Nat.eq_zero_or_pos digits with rfl | positive
  · simp [nearest?]
  have samePoint :
      (⟨digits * 10, exponent - 1⟩ : Scaled).point = (⟨digits, exponent⟩ : Scaled).point := by
    simp only [point, lengthOf_mul_ten positive]
    omega
  have sameNearest :
      Decimal.nearest? (⟨digits * 10, exponent - 1⟩ : Scaled).ratio.1
          (⟨digits * 10, exponent - 1⟩ : Scaled).ratio.2 =
        Decimal.nearest? (⟨digits, exponent⟩ : Scaled).ratio.1
          (⟨digits, exponent⟩ : Scaled).ratio.2 := by
    match exponent with
    | .ofNat 0 =>
        rw [show Int.ofNat 0 - 1 = Int.negSucc 0 from rfl, ratio_negSucc, ratio_ofNat,
          Nat.pow_zero, Nat.mul_one, Nat.zero_add, Nat.pow_one]
        have tenPositive : 0 < 10 := by decide
        simpa only [Nat.one_mul] using nearest?_mul_right digits 1 tenPositive
    | .ofNat (n + 1) =>
        rw [show Int.ofNat (n + 1) - 1 = Int.ofNat n by simp, ratio_ofNat, ratio_ofNat,
          Nat.pow_succ', Nat.mul_assoc]
    | .negSucc n =>
        rw [show Int.negSucc n - 1 = Int.negSucc (n + 1) by omega, ratio_negSucc, ratio_negSucc,
          Nat.pow_succ 10 (n + 1)]
        exact nearest?_mul_right digits (10 ^ (n + 1)) (by decide)
  simp only [nearest?, samePoint, sameNearest, positive.ne', Nat.mul_eq_zero, false_or,
    OfNat.ofNat_ne_zero, if_false]

/-- Zeros behind the digits do not change the nearest magnitude. -/
theorem nearest?_mul_pow_ten
    (digits : Nat)
    (exponent : Int)
    (zeros : Nat) :
    (⟨digits * 10 ^ zeros, exponent - zeros⟩ : Scaled).nearest? =
      (⟨digits, exponent⟩ : Scaled).nearest? := by
  induction zeros with
  | zero => simp
  | succ zeros inductionHypothesis =>
      rw [Nat.pow_succ, ← Nat.mul_assoc,
        show exponent - ((zeros + 1 : Nat) : Int) = exponent - zeros - 1 by omega,
        nearest?_mul_ten, inductionHypothesis]

/-- Dropping the zeros behind the digits does not change the nearest magnitude. -/
@[simp] theorem nearest?_reduce (number : Scaled) : number.reduce.nearest? = number.nearest? := by
  fun_induction reduce number with
  | case1 number zeros inductionHypothesis =>
      have digits : number.digits / 10 * 10 = number.digits :=
        Nat.div_mul_cancel (Nat.dvd_of_mod_eq_zero zeros.2)
      rw [inductionHypothesis, ← nearest?_mul_ten, digits, Int.add_sub_cancel]
  | case2 number _ => rfl

end Scaled

/-! ## The shortest decimal -/

namespace Magnitude

theorem exact_eq (magnitude : Magnitude) :
    magnitude.exact = ⟨magnitude.ratio.1 * tensPerUnit, .negSucc 1073⟩ := rfl

/-- The exact expansion has the value of the magnitude. -/
theorem ratio_exact (magnitude : Magnitude) :
    magnitude.exact.ratio = (magnitude.ratio.1 * tensPerUnit, magnitude.ratio.2 * tensPerUnit) := by
  rw [exact_eq, Scaled.ratio_negSucc, ratio_eq, ten_pow_eq]

theorem ratio_pos
    {magnitude : Magnitude}
    (nonzero : magnitude.val ≠ 0) :
    0 < magnitude.ratio.1 :=
  Nat.mul_pos (significand_pos nonzero) (Nat.two_pow_pos _)

theorem ratio_lt
    (magnitude : Magnitude)
    {exponent : Nat}
    (large : 2098 ≤ exponent) :
    magnitude.ratio.1 < 2 ^ exponent := by
  have bound : 53 + magnitude.shift ≤ exponent := by
    have := magnitude.shift_le
    omega
  calc magnitude.significand * 2 ^ magnitude.shift
      < 2 ^ 53 * 2 ^ magnitude.shift :=
        Nat.mul_lt_mul_of_pos_right magnitude.significand_lt (Nat.two_pow_pos _)
    _ = 2 ^ (53 + magnitude.shift) := (Nat.pow_add ..).symm
    _ ≤ 2 ^ exponent := Nat.pow_le_pow_right (by decide) bound

/-- The exact expansion of a magnitude stands within the range that is rounded at all. -/
theorem point_exact_bounds
    {magnitude : Magnitude}
    (nonzero : magnitude.val ≠ 0) :
    -330 ≤ magnitude.exact.point ∧ magnitude.exact.point ≤ 310 := by
  have positive := ratio_pos nonzero
  have upper := ratio_lt magnitude (Nat.le_refl 2098)
  rw [exact_eq, Scaled.point]
  generalize magnitude.ratio.1 = numerator at positive upper
  have fewest : ¬ lengthOf (numerator * tensPerUnit) ≤ 749 := by
    intro few
    have bound := (lengthOf_le_iff _ (by decide)).1 few
    have lower := Nat.le_mul_of_pos_left tensPerUnit positive
    exact absurd (Nat.lt_of_le_of_lt lower bound) (by decide +kernel)
  have most : lengthOf (numerator * tensPerUnit) ≤ 1384 := by
    have bound := Nat.mul_lt_mul_of_pos_right upper tensPerUnit_pos
    refine (lengthOf_le_iff _ (by decide)).2 (Nat.lt_of_lt_of_le bound ?_)
    decide +kernel
  simp only
  omega

/-- The exact expansion of a magnitude goes to that magnitude. -/
theorem nearest?_exact
    {magnitude : Magnitude}
    (nonzero : magnitude.val ≠ 0) :
    magnitude.exact.nearest? = some magnitude := by
  have bounds := point_exact_bounds nonzero
  have tooHigh : ¬ Scaled.highestPoint < magnitude.exact.point := by
    simp only [Scaled.highestPoint]
    omega
  have tooLow : ¬ magnitude.exact.point < Scaled.lowestPoint := by
    simp only [Scaled.lowestPoint]
    omega
  have digits : magnitude.exact.digits ≠ 0 := by
    rw [exact_eq]
    exact Nat.mul_ne_zero (ratio_pos nonzero).ne' tensPerUnit_pos.ne'
  have value : Decimal.nearest? magnitude.exact.ratio.1 magnitude.exact.ratio.2 =
      some magnitude := by
    rw [ratio_exact, nearest?_mul_right _ _ tensPerUnit_pos, nearest?_ratio nonzero]
  rw [Scaled.nearest?, if_neg digits, if_neg tooHigh, if_neg tooLow, value]

/-- The shortest decimal of a magnitude goes to that magnitude. -/
theorem nearest?_shortest (magnitude : Magnitude) :
    magnitude.shortest.nearest? = some magnitude := by
  by_cases isZero : magnitude.val = 0
  · have zero : magnitude = Magnitude.zero := Fin.ext isZero
    subst zero
    rfl
  · simp only [shortest, isZero, if_false, Scaled.nearest?_reduce]
    cases found : magnitude.candidates.find? (·.nearest? = some magnitude) with
    | none => exact nearest?_exact isZero
    | some candidate => simpa using List.find?_some found

end Magnitude
end Decimal
end FlatTables
