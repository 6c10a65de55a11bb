import FlatTables.Decimal.Text
import FlatTables.Document

/-!
# Documents in JSON

Reading a document from JSON text. Besides standard JSON the names of infinity and of not a
number are read as numbers. Of fields with the same name the last one counts.
-/

namespace FlatTables
namespace Document
namespace Json

/-- A blank between JSON tokens. -/
def isBlank (c : Char) : Bool :=
  c == ' ' || c == '\t' || c == '\n' || c == '\r'

/-- Drop blanks before a token. -/
def skip (s : List Char) : List Char :=
  s.dropWhile isBlank

/-- The rest of a text after a word, if it starts with that word. -/
def after? (word : String) (s : List Char) : Option (List Char) :=
  if word.toList.isPrefixOf s then some (s.drop word.toList.length) else none

/-! ## Texts -/

/-- The value of a hexadecimal digit. -/
def hexValue? (c : Char) : Option Nat :=
  if c.isDigit then some (c.toNat - '0'.toNat)
  else if 'a' ≤ c.toLower ∧ c.toLower ≤ 'f' then some (c.toLower.toNat - 'a'.toNat + 10)
  else none

/-- Read a unit of four hexadecimal digits. -/
def readUnit? : List Char → Option (Nat × List Char)
  | a :: b :: c :: d :: rest => do
      let digits ← [a, b, c, d].mapM hexValue?
      return (digits.foldl (fun n digit => 16 * n + digit) 0, rest)
  | _ => none

/-- The character of a unit that is no half of a pair. -/
def charOfUnit? (code : Nat) : Option Char :=
  if valid : code.isValidChar then some (Char.ofNatAux code valid) else none

/-- Read the escaped character after a backslash and the letter u: one unit, or a pair of
units. -/
def readEscapedUnits? (s : List Char) : Option (Char × List Char) := do
  let (high, rest) ← readUnit? s
  if 0xD800 ≤ high ∧ high < 0xDC00 then
    match rest with
    | '\\' :: 'u' :: tail =>
        let (low, rest) ← readUnit? tail
        if 0xDC00 ≤ low ∧ low < 0xE000 then
          let c ← charOfUnit? (0x10000 + (high - 0xD800) * 0x400 + (low - 0xDC00))
          return (c, rest)
        else none
    | _ => none
  else
    let c ← charOfUnit? high
    return (c, rest)

/-- The character that a letter after a backslash stands for. -/
def escaped? : Char → Option Char
  | '"' => some '"'
  | '\\' => some '\\'
  | '/' => some '/'
  | 'b' => some '\x08'
  | 'f' => some '\x0c'
  | 'n' => some '\n'
  | 'r' => some '\r'
  | 't' => some '\t'
  | _ => none

/-- Read the characters of a text after its opening quote, up to the closing one. -/
def readCharacters? : (fuel : Nat) → List Char → Option (List Char × List Char)
  | 0, _ => none
  | fuel + 1, s => do
      let (c, rest) ←
        match s with
        | '"' :: rest => return ([], rest)
        | '\\' :: 'u' :: rest => readEscapedUnits? rest
        | '\\' :: letter :: rest => (escaped? letter).map (·, rest)
        | c :: rest => if c.toNat < 0x20 then none else some (c, rest)
        | [] => none
      let (content, rest) ← readCharacters? fuel rest
      return (c :: content, rest)

/-- Read a text after its opening quote. -/
def readText? (s : List Char) : Option (String × List Char) :=
  (readCharacters? (s.length + 1) s).map fun (content, rest) => (String.ofList content, rest)

/-! ## Numbers -/

/-- The digits at the front of a text, and the rest. -/
def digitsAt (s : List Char) : List Char × List Char :=
  (s.takeWhile Char.isDigit, s.dropWhile Char.isDigit)

/-- The digits of a whole number: a sole zero, or digits that do not start with one. -/
def wholeAt (s : List Char) : List Char × List Char :=
  match s with
  | '0' :: rest => (['0'], rest)
  | s => digitsAt s

/-- The fraction at the front of a text, with its point. -/
def fractionAt (s : List Char) : List Char × List Char :=
  match s with
  | '.' :: tail =>
      let (digits, rest) := digitsAt tail
      if digits = [] then ([], s) else ('.' :: digits, rest)
  | _ => ([], s)

/-- The sign at the front of a text. -/
def signAt (s : List Char) : List Char × List Char :=
  match s with
  | '+' :: rest => (['+'], rest)
  | '-' :: rest => (['-'], rest)
  | _ => ([], s)

/-- The exponent at the front of a text. -/
def exponentAt (s : List Char) : List Char × List Char :=
  match s with
  | c :: tail =>
      let (sign, unsigned) := signAt tail
      let (digits, rest) := digitsAt unsigned
      if (c = 'e' ∨ c = 'E') ∧ digits ≠ [] then (c :: (sign ++ digits), rest) else ([], s)
  | [] => ([], [])

/-- Read a number: an integer unless it has a fraction or an exponent. -/
def readNumber? (s : List Char) : Option (Document × List Char) := do
  let (sign, unsigned) :=
    match s with
    | '-' :: rest => (['-'], rest)
    | _ => ([], s)
  let (whole, rest) := wholeAt unsigned
  guard (whole ≠ [])
  let (fraction, rest) := fractionAt rest
  let (exponent, rest) := exponentAt rest
  if fraction = [] ∧ exponent = [] then
    let n ← Decimal.readInteger? (sign ++ whole)
    return (.integer n, rest)
  else
    let x ← Decimal.readReal? (sign ++ whole ++ fraction ++ exponent)
    return (.real x, rest)

/-! ## Values -/

/-- Words that are values. -/
def words : List (String × Document) :=
  [("null", .null), ("true", .flag true), ("false", .flag false), ("NaN", .real .nan),
   ("Infinity", .real (.infinite false)), ("-Infinity", .real (.infinite true))]

/-- Read a word or a number. -/
def readScalar? (s : List Char) : Option (Document × List Char) :=
  (words.findSome? fun (word, value) => (after? word s).map (value, ·)) <|> readNumber? s

mutual

/-- Read a value at the very front of a text. -/
def readValue? : (fuel : Nat) → List Char → Option (Document × List Char)
  | 0, _ => none
  | fuel + 1, s =>
      match s with
      | '"' :: rest => (readText? rest).map fun (content, rest) => (.text content, rest)
      | '[' :: rest =>
          match skip rest with
          | ']' :: rest => some (.list [], rest)
          | rest => (readItems? fuel rest).map fun (items, rest) => (.list items, rest)
      | '{' :: rest =>
          match skip rest with
          | '}' :: rest => some (.object [], rest)
          | rest => (readFields? fuel [] rest).map fun (fields, rest) => (.object fields, rest)
      | s => readScalar? s

/-- Read the items of a list up to its closing bracket. -/
def readItems? : (fuel : Nat) → List Char → Option (List Document × List Char)
  | 0, _ => none
  | fuel + 1, s => do
      let (item, rest) ← readValue? fuel s
      match skip rest with
      | ']' :: rest => return ([item], rest)
      | ',' :: rest =>
          let (items, rest) ← readItems? fuel (skip rest)
          return (item :: items, rest)
      | _ => none

/-- Read the fields of an object up to its closing brace, in addition to those already read. -/
def readFields? : (fuel : Nat) → List (String × Document) → List Char →
    Option (List (String × Document) × List Char)
  | 0, _, _ => none
  | fuel + 1, fields, s => do
      let (name, rest) ←
        match s with
        | '"' :: rest => readText? rest
        | _ => none
      let rest ←
        match skip rest with
        | ':' :: rest => some (skip rest)
        | _ => none
      let (value, rest) ← readValue? fuel rest
      let fields := setField fields name value
      match skip rest with
      | '}' :: rest => return (fields, rest)
      | ',' :: rest => readFields? fuel fields (skip rest)
      | _ => none

end

end Json

/-- Read a document from JSON text. -/
def ofJson? (s : String) : Option Document :=
  match Json.readValue? (s.length + 1) (Json.skip s.toList) with
  | some (document, rest) => if Json.skip rest = [] then some document else none
  | none => none

end Document
end FlatTables
