import FlatTables.Decimal.Shortest
import FlatTables.Text.Blank
import FlatTables.Text.Digit

/-!
# Numbers as text

Integers are written in plain decimal and read from an optional sign and decimal digits of any
script; both sides refuse more digits than a fixed limit. Real numbers are written with the
fewest digits that read back, positionally or with an exponent, and are read from an optional
sign, digits with at most one point, and an optional exponent.
-/

namespace FlatTables
namespace Decimal

/-- The most digits an integer may have as text, leading zeros counted and the sign not. -/
def maxIntegerDigits : Nat := 4300

/-- The text of an integer, or `none` if it has too many digits. -/
def integerText? (n : Int) : Option (List Char) :=
  let digits := digitsOf n.natAbs
  if digits.length ≤ maxIntegerDigits then some (if n < 0 then '-' :: digits else digits) else none

/-- Split an optional sign off a text; the flag says whether it is a minus. -/
def splitSign : List Char → Bool × List Char
  | '+' :: rest => (false, rest)
  | '-' :: rest => (true, rest)
  | s => (false, s)

/-- The integer with a given sign and absolute value. -/
def signed (negative : Bool) (n : Nat) : Int :=
  if negative then -n else n

/-- Read an integer: an optional sign and digits, at most `maxIntegerDigits` of them. -/
def readInteger? (s : List Char) : Option Int :=
  let (negative, digits) := splitSign s
  if digits ≠ [] ∧ digits.all Text.isDigit ∧ digits.length ≤ maxIntegerDigits then
    some (signed negative (Text.numberOfDigits digits))
  else none

/-- How real numbers are laid out: the range of decimal point positions written without an
exponent, and the least number of exponent digits. -/
structure RealStyle where
  leastPositional : Int
  mostPositional : Int
  exponentWidth : Nat
  deriving DecidableEq, Repr

/-- Numbers from `0.0001` up to sixteen digits before the point are written positionally; an
exponent has at least two digits. -/
def realStyle : RealStyle :=
  ⟨-3, 16, 2⟩

/-- Digits with the point at a given position; at least one digit stands on either side of it. -/
def positional (digits : List Char) (point : Int) : List Char :=
  if point ≤ 0 then
    '0' :: '.' :: (List.replicate (-point).toNat '0' ++ digits)
  else if digits.length ≤ point.toNat then
    digits ++ List.replicate (point.toNat - digits.length) '0' ++ ['.', '0']
  else
    digits.take point.toNat ++ '.' :: digits.drop point.toNat

/-- Digits with an exponent: one digit before the point, and no point after a sole digit. -/
def scientific (width : Nat) (digits : List Char) (point : Int) : List Char :=
  let exponent := point - 1
  let exponentDigits := digitsOf exponent.natAbs
  let fraction := if digits.length ≤ 1 then [] else '.' :: digits.drop 1
  digits.take 1 ++ fraction ++ 'e' :: (if exponent < 0 then '-' else '+')
    :: (List.replicate (width - exponentDigits.length) '0' ++ exponentDigits)

/-- The text of a magnitude. -/
def magnitudeText (style : RealStyle) (magnitude : Magnitude) : List Char :=
  let shortest := magnitude.shortest
  if shortest.digits = 0 then ['0', '.', '0']
  else
    let digits := digitsOf shortest.digits
    if style.leastPositional ≤ shortest.point ∧ shortest.point ≤ style.mostPositional then
      positional digits shortest.point
    else scientific style.exponentWidth digits shortest.point

/-- The text of a real number. -/
def realText : Binary64 → List Char
  | .finite negative magnitude =>
      let text := magnitudeText realStyle magnitude
      if negative then '-' :: text else text
  | .infinite negative => if negative then "-inf".toList else "inf".toList
  | .nan => "nan".toList

/-- Read what follows the digits of a decimal number: nothing, or an exponent. -/
def readExponent? : List Char → Option Int
  | [] => some 0
  | c :: rest =>
      let (negative, digits) := splitSign rest
      if (c = 'e' ∨ c = 'E') ∧ digits ≠ [] ∧ digits.all Text.isDigit then
        some (signed negative (Text.numberOfDigits digits))
      else none

/-- Read an unsigned decimal number: digits with at most one point among or around them, and an
optional exponent. -/
def readScaled? (s : List Char) : Option Scaled :=
  let whole := s.takeWhile Text.isDigit
  match s.dropWhile Text.isDigit with
  | '.' :: rest =>
      let fraction := rest.takeWhile Text.isDigit
      if whole = [] ∧ fraction = [] then none
      else
        (readExponent? (rest.dropWhile Text.isDigit)).map fun exponent =>
          ⟨Text.numberOfDigits (whole ++ fraction), exponent - fraction.length⟩
  | rest =>
      if whole = [] then none
      else (readExponent? rest).map fun exponent => ⟨Text.numberOfDigits whole, exponent⟩

/-- Read a real number written as a decimal number with an optional sign. -/
def readReal? (s : List Char) : Option Binary64 :=
  let (negative, rest) := splitSign s
  (readScaled? rest).map (·.toBinary64 negative)

/-- Drop each underscore between two digits; the flag says whether a digit came just before. -/
def joinDigits : (afterDigit : Bool) → List Char → List Char
  | _, [] => []
  | afterDigit, c :: rest =>
      if c = '_' ∧ afterDigit ∧ rest.head?.any Text.isDigit then joinDigits false rest
      else c :: joinDigits (Text.isDigit c) rest

/-- Read a real number in any of its spellings: besides decimal numbers also infinity and not a
number by name, surrounding blanks, and underscores between digits. -/
def readAnyReal? (s : List Char) : Option Binary64 :=
  let trimmed := Text.trimChars s
  let (negative, rest) := splitSign trimmed
  let name := String.ofList (rest.map Char.toLower)
  if name = "inf" ∨ name = "infinity" then some (.infinite negative)
  else if name = "nan" then some .nan
  else readReal? (joinDigits false trimmed)

end Decimal
end FlatTables
