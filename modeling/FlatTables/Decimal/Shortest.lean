import FlatTables.Decimal.Scaled

/-!
# Shortest decimal of a magnitude

A magnitude is written with the fewest decimal digits that read back as that magnitude, and with
the digits nearest to it among those. For one digit, two digits and so on the two neighbours of
the magnitude on the grid of that many digits are read back, the nearer one first; seventeen
digits always suffice. Should none of them read back, the exact decimal expansion is used, so
that the result reads back by construction.
-/

namespace FlatTables
namespace Decimal
namespace Magnitude

/-- The decimal point position of a positive ratio: ten to this power exceeds the ratio, and the
next lower power does not. -/
def pointOf (numerator denominator : Nat) : Int :=
  if denominator ≤ numerator then lengthOf (numerator / denominator)
  else
    let length := lengthOf (denominator / numerator)
    if denominator ≤ numerator * Nat.pow 10 (length - 1) then 2 - length else 1 - length

/-- The two neighbours of a ratio among the multiples of ten to the power `exponent`, the nearer
one first and the even one first if they are equally near. -/
def neighbours (numerator denominator : Nat) (exponent : Int) : List Scaled :=
  let unit : Scaled := ⟨1, exponent⟩
  let scaledNumerator := numerator * unit.ratio.2
  let scaledDenominator := denominator * unit.ratio.1
  let below := scaledNumerator / scaledDenominator
  let twice := 2 * (scaledNumerator % scaledDenominator)
  if twice < scaledDenominator ∨ (twice = scaledDenominator ∧ below % 2 = 0) then
    [⟨below, exponent⟩, ⟨below + 1, exponent⟩]
  else
    [⟨below + 1, exponent⟩, ⟨below, exponent⟩]

/-- The candidates for the shortest decimal, fewest digits first. -/
def candidates (magnitude : Magnitude) : List Scaled :=
  let numerator := magnitude.ratio.1
  let denominator := magnitude.ratio.2
  let point := pointOf numerator denominator
  (List.range 17).flatMap fun (n : Nat) =>
    neighbours numerator denominator (point - (n + 1 : Nat))

/-- How many units of `10 ^ -1074` make one of `2 ^ -1074`. -/
def tensPerUnit : Nat := Nat.pow 5 1074

/-- The exact decimal expansion of a magnitude. -/
def exact (magnitude : Magnitude) : Scaled :=
  ⟨magnitude.significand * Nat.pow 2 magnitude.shift * tensPerUnit, -1074⟩

/-- The shortest decimal that reads back as a magnitude. -/
def shortest (magnitude : Magnitude) : Scaled :=
  if magnitude.val = 0 then ⟨0, 0⟩
  else
    ((candidates magnitude).find? (·.nearest? = some magnitude)).getD (exact magnitude) |>.reduce

end Magnitude
end Decimal
end FlatTables
