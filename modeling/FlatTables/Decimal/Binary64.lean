/-!
# Double-precision numbers

A finite number is a sign and a magnitude. Magnitudes are numbered in ascending order from zero,
so that the number of a magnitude is its 63-bit pattern: below `2 ^ 52` it counts units of
`2 ^ -1074`, above that its upper part is a power of two and its lower part a position among the
`2 ^ 52` magnitudes between that power and the next. Rounding is exact: a ratio of naturals goes
to the nearest magnitude, and a tie to the even one.
-/

namespace FlatTables
namespace Decimal

/-- How many magnitudes share one power of two. -/
def binadeSize : Nat := Nat.pow 2 52

/-- How many finite magnitudes there are. -/
def magnitudeCount : Nat := 0x7FF * binadeSize

/-- How many units of `2 ^ -1074` make one. -/
def unitsPerOne : Nat := Nat.pow 2 1074

/-- A finite magnitude, numbered in ascending order. -/
abbrev Magnitude := Fin magnitudeCount

/-- A double-precision number. -/
inductive Binary64
  | finite (negative : Bool) (magnitude : Magnitude)
  | infinite (negative : Bool)
  | nan
  deriving DecidableEq, Repr

namespace Magnitude

/-- The magnitude zero. -/
def zero : Magnitude := ⟨0, by decide⟩

/-- The integer factor of a magnitude: its value is `significand * 2 ^ exponent`. -/
def significand (magnitude : Magnitude) : Nat :=
  if magnitude.val < binadeSize then magnitude.val
  else binadeSize + magnitude.val % binadeSize

/-- The binary exponent of a magnitude, raised by 1074. -/
def shift (magnitude : Magnitude) : Nat :=
  magnitude.val / binadeSize - 1

/-- The value of a magnitude as a ratio. -/
def ratio (magnitude : Magnitude) : Nat × Nat :=
  (magnitude.significand * Nat.pow 2 magnitude.shift, unitsPerOne)

/-- The magnitude with a given number, or `none` beyond the largest one. -/
def ofNat? (number : Nat) : Option Magnitude :=
  if bound : number < magnitudeCount then some ⟨number, bound⟩ else none

end Magnitude

/-- The integer nearest to a ratio; of two equally near ones the even one. -/
def divideNearest (numerator denominator : Nat) : Nat :=
  let quotient := numerator / denominator
  let twice := 2 * (numerator % denominator)
  if twice < denominator then quotient
  else if denominator < twice then quotient + 1
  else quotient + quotient % 2

/-- The largest power of two, as an exponent raised by 1074, that divides a ratio into a number
of at least `2 ^ 52`; zero if even the least one leaves a smaller number. -/
def shiftOf (numerator denominator : Nat) : Nat :=
  let units := numerator * unitsPerOne / denominator
  units.log2 - 52

/-- The magnitude nearest to a ratio, a tie going to the even one; `none` if it would lie beyond
the largest magnitude. -/
def nearest? (numerator denominator : Nat) : Option Magnitude :=
  let shift := shiftOf numerator denominator
  Magnitude.ofNat?
    (shift * binadeSize
      + divideNearest (numerator * unitsPerOne) (denominator * Nat.pow 2 shift))

namespace Binary64

/-- The number nearest to an integer, or `none` beyond the largest magnitude. -/
def ofInt? (n : Int) : Option Binary64 :=
  (nearest? n.natAbs 1).map (.finite (n < 0))

/-- The value of a finite number in units of `2 ^ -1074`. -/
def units (negative : Bool) (magnitude : Magnitude) : Int :=
  let count : Int := magnitude.significand * Nat.pow 2 magnitude.shift
  if negative then -count else count

/-- The order of two numbers; not a number is not ordered to any. Both zeros are equal. -/
def compare? : Binary64 → Binary64 → Option Ordering
  | .nan, _ => none
  | _, .nan => none
  | .infinite left, .infinite right => some (compare right left)
  | .infinite left, .finite .. => some (if left then .lt else .gt)
  | .finite .., .infinite right => some (if right then .gt else .lt)
  | .finite leftSign left, .finite rightSign right =>
      some (compare (units leftSign left) (units rightSign right))

/-- The exact order of a number and an integer. -/
def compareInt? : Binary64 → Int → Option Ordering
  | .nan, _ => none
  | .infinite negative, _ => some (if negative then .lt else .gt)
  | .finite negative magnitude, n => some (compare (units negative magnitude) (n * unitsPerOne))

end Binary64

end Decimal
end FlatTables
