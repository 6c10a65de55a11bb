import FlatTables.Decimal.Text
import FlatTables.Document
import FlatTables.Settings.Problem
import FlatTables.Storage.Path

/-!
# Reading settings

Readers turn the fields of a document into values of the types wanted. Texts are read as numbers
and flags where those are wanted, since environment variables hold nothing but texts. All
problems of a document are collected, in the order of the fields.
-/

namespace FlatTables
namespace Settings

/-- A value, or all the problems that keep it from being read. -/
inductive Checked (α : Type)
  | valid (value : α)
  | invalid (problems : List Problem)

namespace Checked

/-- Apply a function that was read to a value that was read, with the problems of both. -/
def apply : Checked (α → β) → Checked α → Checked β
  | .valid f, .valid x => .valid (f x)
  | .valid _, .invalid problems => .invalid problems
  | .invalid problems, .valid _ => .invalid problems
  | .invalid first, .invalid second => .invalid (first ++ second)

/-- Place the problems inside a field. -/
def within (name : String) : Checked α → Checked α
  | .valid value => .valid value
  | .invalid problems => .invalid (problems.map (Problem.within name))

end Checked

/-- A reader of one value. -/
abbrev Reader (α : Type) := Document → Except Cause α

/-- Read a field, or take its default if it is not given. -/
def readField (document : Document) (name : String) (fallback : α) (reader : Reader α) :
    Checked α :=
  match document.field? name with
  | none => .valid fallback
  | some value =>
      match reader value with
      | .ok value => .valid value
      | .error cause => .invalid [⟨[name], cause⟩]

/-! ## Texts and paths -/

/-- Read a text. -/
def readText : Reader String
  | .text s => .ok s
  | _ => .error .notText

/-- Read a text that may be missing. -/
def readOptionalText : Reader (Option String)
  | .null => .ok none
  | value => (readText value).map some

/-- Read a path. -/
def readPath : Reader Storage.Path
  | .text s => .ok (.ofString s)
  | _ => .error .notPath

/-- Read a text that starts with a dot. -/
def readSuffix : Reader String := fun value => do
  let suffix ← readText value
  if suffix.toList.head? = some '.' then .ok suffix else .error .noInitialDot

/-- Read one of some texts. -/
def readChoice (choices : List String) : Reader String
  | .text s => if s ∈ choices then .ok s else .error (.noneOf choices)
  | _ => .error (.noneOf choices)

/-! ## Integers -/

/-- A blank around an integer: those of Unicode without the information separators. -/
def isOuterBlank (c : Char) : Bool :=
  Text.isBlank c && !(0x1C ≤ c.toNat && c.toNat ≤ 0x1F)

/-- Drop outer blanks at both ends of a text. -/
def trimOuter (s : List Char) : List Char :=
  ((s.dropWhile isOuterBlank).reverse.dropWhile isOuterBlank).reverse

/-- Take a minus off the front of a text. -/
def splitMinus : List Char → Bool × List Char
  | '-' :: rest => (true, rest)
  | s => (false, s)

/-- A text starts with an integer of more characters than can be read. -/
def startsOversized (s : List Char) : Bool :=
  let (negative, rest) := splitMinus s
  let digits := rest.takeWhile Char.isDigit
  digits.head? != some '0' && Decimal.maxIntegerDigits < digits.length + negative.toNat

/-- Read an integer in its shortest form: ASCII digits without a zero in front, after a minus if
it is negative, and not too many of them. -/
def readShortInteger? (s : List Char) : Option Int :=
  let (negative, digits) := splitMinus s
  if digits ≠ [] ∧ digits.all Char.isDigit ∧ (digits.head? ≠ some '0' ∨ digits.length = 1) ∧
      !startsOversized s then
    some (Decimal.signed negative (Text.numberOfDigits digits))
  else none

/-- Drop a plus that is not followed by a minus. -/
def dropPlus? : List Char → Option (List Char)
  | '+' :: '-' :: _ => none
  | '+' :: rest => some rest
  | s => some s

/-- Drop zeros and underscores that follow `last`, but keep the last character before a point or
the end. -/
def dropZerosAfter? (last : Char) : List Char → Option (List Char)
  | [] => some [last]
  | c :: rest =>
      if c = '0' ∨ c = '_' then dropZerosAfter? c rest
      else if c.isDigit then some (c :: rest)
      else if c = '.' then some (last :: c :: rest)
      else none

/-- Drop the zeros in front of an integer without a sign, with underscores among them. -/
def dropLeadingZeros? : List Char → Option (List Char)
  | [] => none
  | c :: rest =>
      if c = '0' then dropZerosAfter? c rest
      else if c.isDigit then some (c :: rest)
      else none

/-- Drop a fraction that consists of zeros, of which there is at least one. -/
def dropZeroFraction (s : List Char) : List Char :=
  match s.dropWhile (· ≠ '.') with
  | '.' :: fraction =>
      if fraction ≠ [] ∧ fraction.all (· = '0') then s.takeWhile (· ≠ '.') else s
  | _ => s

/-- Two underscores follow each other. -/
def hasDoubleUnderscore : List Char → Bool
  | '_' :: '_' :: _ => true
  | _ :: rest => hasDoubleUnderscore rest
  | [] => false

/-- Drop underscores, if each stands alone inside the text. -/
def dropUnderscores (s : List Char) : List Char :=
  if s.head? = some '_' ∨ s.getLast? = some '_' ∨ hasDoubleUnderscore s then s
  else s.filter (· ≠ '_')

/-- The shortest form of an integer that is written with outer blanks, a plus, zeros in front of
its digits, a fraction of zeros or underscores. -/
def shortenInteger? (s : List Char) : Option (List Char) := do
  let (negative, unsigned) := splitMinus (← dropPlus? (trimOuter s))
  let digits := dropUnderscores (dropZeroFraction (← dropLeadingZeros? unsigned))
  return if negative then '-' :: digits else digits

/-- Read a text as an integer. -/
def integerOfText (s : String) : Except Cause Int :=
  let text := s.toList
  if startsOversized text then .error .oversizedInteger
  else
    match readShortInteger? text <|> (shortenInteger? text).bind readShortInteger? with
    | some n => .ok n
    | none => .error .unreadableInteger

/-- Read a real number as an integer of less than 64 bits. -/
def integerOfReal : Decimal.Binary64 → Except Cause Int
  | .finite negative magnitude =>
      let (numerator, denominator) := magnitude.ratio
      if numerator % denominator ≠ 0 then .error .fractional
      else if numerator / denominator < Nat.pow 2 63 then
        .ok (Decimal.signed negative (numerator / denominator))
      else .error .oversizedInteger
  | _ => .error .notFinite

/-- Read an integer; a flag counts as one or zero. -/
def readInteger : Reader Int
  | .integer n => .ok n
  | .flag value => .ok (if value then 1 else 0)
  | .text s => integerOfText s
  | .real x => integerOfReal x
  | _ => .error .notInteger

/-- Read an integer between two bounds. -/
def readBounded (least greatest : Int) : Reader Int := fun value => do
  let n ← readInteger value
  if n < least then .error (.belowLeast least)
  else if greatest < n then .error (.aboveGreatest greatest)
  else .ok n

/-! ## Flags -/

/-- Words for a flag that is set. -/
def yesWords : List String :=
  ["1", "on", "t", "true", "y", "yes"]

/-- Words for a flag that is not set. -/
def noWords : List String :=
  ["0", "off", "f", "false", "n", "no"]

/-- Read a text as a flag, in any case of ASCII letters. -/
def flagOfText (s : String) : Except Cause Bool :=
  let word := String.ofList (s.toList.map Char.toLower)
  if word ∈ yesWords then .ok true
  else if word ∈ noWords then .ok false
  else .error .unreadableFlag

/-- Read one or zero as a flag. An integer of more than 64 bits is none at all. -/
def flagOfInteger (n : Int) : Except Cause Bool :=
  if n = 1 then .ok true
  else if n = 0 then .ok false
  else if -Nat.pow 2 63 ≤ n ∧ n < Nat.pow 2 63 then .error .unreadableFlag
  else .error .notFlag

/-- Read a flag. -/
def readFlag : Reader Bool
  | .flag value => .ok value
  | .text s => flagOfText s
  | .integer n => flagOfInteger n
  | .real x =>
      match integerOfReal x with
      | .ok n => flagOfInteger n
      | .error _ => .error .notFlag
  | _ => .error .notFlag

end Settings
end FlatTables
