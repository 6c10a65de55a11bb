import FlatTables.Text.Printable

/-!
# Quoted texts

A text inside a message is put in quotes so that its ends and its invisible characters can be
seen. Single quotes are used unless the text holds a single quote and no double quote; the
quote in use and the backslash are escaped, and so is every character that is not printable.
-/

namespace FlatTables
namespace Text

/-- The lower-case hexadecimal digit of a value below sixteen. -/
def hexDigit (value : Nat) : Char :=
  if value < 10 then Char.ofNat (0x30 + value) else Char.ofNat (0x57 + value)

/-- The last `width` hexadecimal digits of a number. -/
def hexDigits : (width : Nat) → Nat → List Char
  | 0, _ => []
  | width + 1, n => hexDigits width (n / 16) ++ [hexDigit (n % 16)]

/-- The escape of a character that is not printable: two, four or eight hexadecimal digits. -/
def escapeCode (c : Char) : List Char :=
  let code := c.toNat
  if code ≤ 0xFF then '\\' :: 'x' :: hexDigits 2 code
  else if code ≤ 0xFFFF then '\\' :: 'u' :: hexDigits 4 code
  else '\\' :: 'U' :: hexDigits 8 code

/-- One character of a quoted text, `quote` being the quote in use. -/
def escapeChar (quote c : Char) : List Char :=
  if c == quote || c == '\\' then ['\\', c]
  else if c == '\n' then ['\\', 'n']
  else if c == '\r' then ['\\', 'r']
  else if c == '\t' then ['\\', 't']
  else if isPrintable c then [c]
  else escapeCode c

/-- The quote that surrounds a text: double only if the text holds single quotes and no double
ones. -/
def quoteFor (s : List Char) : Char :=
  if s.contains '\'' && !s.contains '"' then '"' else '\''

/-- The characters of a text in quotes. -/
def quotedChars (s : List Char) : List Char :=
  let quote := quoteFor s
  quote :: s.flatMap (escapeChar quote) ++ [quote]

/-- A text in quotes, as messages show it. -/
def quoted (s : String) : String :=
  String.ofList (quotedChars s.toList)

end Text
end FlatTables
