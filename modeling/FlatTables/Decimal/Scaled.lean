import FlatTables.Decimal.Binary64

/-!
# Decimal numbers

A decimal number is a natural number of units of a power of ten. It goes to the nearest
double-precision magnitude exactly; numbers far outside the double-precision range are decided by
their length alone, so that a huge exponent costs nothing.
-/

namespace FlatTables
namespace Decimal

/-- The number `digits * 10 ^ exponent`. -/
structure Scaled where
  digits : Nat
  exponent : Int
  deriving DecidableEq, Repr

/-- The decimal digits of a natural number, most significant first. -/
def digitsOf (n : Nat) : List Char :=
  Nat.toDigits 10 n

/-- How many decimal digits a natural number has. -/
def lengthOf (n : Nat) : Nat :=
  (digitsOf n).length

namespace Scaled

/-- The value as a ratio. -/
def ratio (number : Scaled) : Nat × Nat :=
  match number.exponent with
  | .ofNat n => (number.digits * Nat.pow 10 n, 1)
  | .negSucc n => (number.digits, Nat.pow 10 (n + 1))

/-- The position of the decimal point after the first digit: the number lies below ten to this
power, and not below the next lower one unless it is zero. -/
def point (number : Scaled) : Int :=
  lengthOf number.digits + number.exponent

/-- A number whose point stands above this position exceeds every finite magnitude. -/
def highestPoint : Int := 310

/-- A number whose point stands below this position is nearest to zero. -/
def lowestPoint : Int := -330

/-- The magnitude nearest to a decimal number, a tie going to the even one; `none` if it would
lie beyond the largest magnitude. -/
def nearest? (number : Scaled) : Option Magnitude :=
  if number.digits = 0 then some Magnitude.zero
  else if highestPoint < number.point then none
  else if number.point < lowestPoint then some Magnitude.zero
  else Decimal.nearest? number.ratio.1 number.ratio.2

/-- The double-precision number nearest to a decimal number with a given sign. -/
def toBinary64 (negative : Bool) (number : Scaled) : Binary64 :=
  match number.nearest? with
  | some magnitude => .finite negative magnitude
  | none => .infinite negative

/-- Drop the zeros at the end of the digits. -/
def reduce (number : Scaled) : Scaled :=
  if number.digits ≠ 0 ∧ number.digits % 10 = 0 then
    reduce ⟨number.digits / 10, number.exponent + 1⟩
  else number
termination_by number.digits
decreasing_by omega

end Scaled

end Decimal
end FlatTables
