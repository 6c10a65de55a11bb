import FlatTables.Query.Keyword
import FlatTables.Text.Blank

/-!
# Lexemes

A statement is first cut into pieces, each a run of characters of the text: blanks, comments,
numbers, quoted texts and names, operators, phrases and words. Cutting looks at the text ahead and
at whether the mark of a parameter has just been read, and every piece takes at least one
character. It fails only where a quote or comment is not closed.
-/

namespace FlatTables
namespace Query

open Text (isBlank)

/-- The characters that end a word. -/
def isDelimiter (c : Char) : Bool :=
  "()[]\x7b\x7d&^:,.-=><%!|+;/\\*~?@#'\"\x60".toList.contains c

/-- What is not closed: a quote at the very end of the text, a comment, a quoted text, or a
quoted text that ends with a doubled quote. -/
inductive UnclosedFault
  | loneQuote
  | comment
  | quote
  | doubledQuote
  deriving DecidableEq, Repr

/-- What a piece of a statement is. -/
inductive LexemeKind
  | blank
  | comment (opensHint : Bool)
  | hint
  | number
  | quotedText (content : String)
  | quotedName (content : String)
  | nationalText (content : String)
  | symbol
  | phrase
  | word
  deriving DecidableEq, Repr

/-- A piece of a statement: its kind, the position of its first character, and its characters. -/
structure Lexeme where
  kind : LexemeKind
  start : Nat
  text : List Char
  deriving DecidableEq, Repr

/-! ## Numbers -/

/-- The exponent of a number being read: not met, met without a sign, met with a sign. -/
inductive ExponentState
  | absent
  | unsigned
  | signed
  deriving DecidableEq, Repr

/-- How many characters of a text continue a number: digits, one point unless `point` rules it
out, one exponent mark, and behind that one sign that a digit follows. -/
def numberLength (point : Bool) (exponent : ExponentState) : List Char → Nat
  | [] => 0
  | c :: rest =>
      if c.isDigit then numberLength point exponent rest + 1
      else if c = '.' ∧ point = false then numberLength true exponent rest + 1
      else if (c = '-' ∨ c = '+') ∧ exponent = .unsigned ∧ rest.head?.any Char.isDigit then
        numberLength point .signed rest + 1
      else if (c = 'e' ∨ c = 'E') ∧ exponent = .absent then numberLength point .unsigned rest + 1
      else 0

/-! ## Quotes -/

/-- The content of a quoted text and how many characters it takes with its closing quote. A
doubled quote stands for one quote. -/
def quotedContent (quote : Char) : List Char → Except UnclosedFault (List Char × Nat)
  | [] => .error .quote
  | c :: rest =>
      if c = quote then
        match rest with
        | [] => .ok ([], 1)
        | d :: tail =>
            if d = quote then
              if tail = [] then .error .doubledQuote
              else (quotedContent quote tail).map fun (content, length) =>
                (quote :: content, length + 2)
            else .ok ([], 1)
      else
        (quotedContent quote rest).map fun (content, length) => (c :: content, length + 1)

/-- The content of a quoted text whose opening quote has been read. -/
def quotedFrom (quote : Char) (text : List Char) : Except UnclosedFault (List Char × Nat) :=
  if text = [] then .error .loneQuote else quotedContent quote text

/-! ## Comments -/

/-- How many characters it takes to close a comment inside which `depth` further comments are
open. A comment inside starts with `inner`, or there are none if that is empty. Its mark counts
only if it does not directly follow an opening one, as `entered` tells. -/
def commentLength? (inner closing : List Char) (depth : Nat) (entered : Bool) :
    List Char → Option Nat
  | [] => none
  | c :: rest =>
      if opensAgain : entered = false ∧ inner.isPrefixOf (c :: rest) ∧ inner ≠ [] then
        (commentLength? inner closing (depth + 1) true ((c :: rest).drop inner.length)).map
          (· + inner.length)
      else if closing.isPrefixOf (c :: rest) then
        if depth = 0 then some closing.length
        else (commentLength? inner closing (depth - 1) false rest).map (· + 1)
      else (commentLength? inner closing depth false rest).map (· + 1)
termination_by text => text.length
decreasing_by
  · have : 0 < inner.length := List.length_pos_iff.2 opensAgain.2.2
    simp only [List.length_drop, List.length_cons]
    omega
  · exact Nat.lt_succ_self _
  · exact Nat.lt_succ_self _

/-! ## Spellings -/

/-- How many characters of a text a spelling takes at its front, in either case of ASCII letters.
A blank in the spelling stands for any run of blanks. -/
def spellingLength? : (spelling text : List Char) → Option Nat
  | [], _ => some 0
  | _ :: _, [] => none
  | s :: spelling, c :: text =>
      if s = ' ' then
        if isBlank c then
          (spellingLength? spelling (text.dropWhile isBlank)).map
            (· + (text.takeWhile isBlank).length + 1)
        else none
      else if s.toUpper = c.toUpper then (spellingLength? spelling text).map (· + 1)
      else none

/-- Operators of more than one character; each stands before those it starts with. -/
def operators : List String :=
  ["<<->>", "<=>", "<->", "->>", "#>>", "~~~", "~~*", "-|-", "?::", "\x7b%+", "\x7b%-",
   "+%\x7d", "-%\x7d", "\x7b\x7b+", "\x7b\x7b-", "+\x7d\x7d", "-\x7d\x7d", "==", ">=", "<=",
   "<>", "!=", "->", "=>", ":=", "::", "||", "|>", "&&", "&<", "&>", "#>", "??", "~~", "~*", "\x7b%",
   "%\x7d"]

/-- Phrases that are one piece in spite of a blank or dash. -/
def phrases : List String :=
  ["CLUSTER BY", "CONNECT BY", "DISTRIBUTE BY", "FOREIGN KEY", "GROUP BY", "GROUPING SETS",
   "ORDER BY", "PARTITION BY", "PARTITIONED BY", "PRIMARY KEY", "SIMILAR TO", "SORT BY",
   "SQL SECURITY", "DOUBLE PRECISION", "CHAR VARYING", "CHARACTER VARYING", "USER-DEFINED"]

/-- A word may end before this text. -/
def isBoundary : List Char → Bool
  | [] => true
  | c :: _ => isBlank c || isDelimiter c

/-- The length of the operator at the front of a text. -/
def operatorLength? (text : List Char) : Option Nat :=
  operators.findSome? fun operator => spellingLength? operator.toList text

/-- The length of the phrase at the front of a text. A phrase ends where a word may end, or
anywhere if it holds a delimiter itself. -/
def phraseLength? (text : List Char) : Option Nat :=
  phrases.findSome? fun phrase =>
    (spellingLength? phrase.toList text).filter fun length =>
      phrase.toList.any isDelimiter || isBoundary (text.drop length)

/-! ## Cutting -/

/-- The piece at the front of a text: its kind, and how many characters it takes after its first
one. -/
abbrev Cut := LexemeKind × Nat

/-- Cut a quoted text or name whose opening takes `opening` characters after the first one. -/
def cutQuoted (kind : String → LexemeKind) (quote : Char) (opening : Nat) (rest : List Char) :
    Except UnclosedFault Cut :=
  (quotedFrom quote (rest.drop opening)).map fun (content, length) =>
    (kind (String.ofList content), opening + length)

/-- Cut a comment whose opening mark takes `opening` characters after the first one. Comments
inside it start with `inner`. -/
def cutComment (opensHint : Bool) (opening : Nat) (inner closing rest : List Char) :
    Except UnclosedFault Cut :=
  match commentLength? inner closing 0 true (rest.drop opening) with
  | some length => .ok (.comment opensHint, opening + length)
  | none => .error .comment

/-- A line ends before this character. -/
def endsLine (c : Char) : Bool :=
  c == '\n' || c == '\r'

/-- The characters of a word after its first one. -/
def wordLength (rest : List Char) : Nat :=
  (rest.takeWhile fun c => !isBlank c && !isDelimiter c).length

/-- Cut an operator, phrase, single delimiter or word. -/
def cutPlain (c : Char) (rest : List Char) : Cut :=
  match operatorLength? (c :: rest) with
  | some length => (.symbol, length - 1)
  | none =>
      match phraseLength? (c :: rest) with
      | some length => (.phrase, length - 1)
      | none => if isDelimiter c then (.symbol, 0) else (.word, wordLength rest)

/-- A blank that forms one piece with those of its kind that follow. -/
def isSpacing (c : Char) : Bool :=
  c == ' ' || c == '\t'

/-- Cut the piece that starts with a given character. The number of a parameter has no fraction,
as `marked` tells. Comments hold further comments of their kind, but those that open hints hold
none. -/
def cut (marked : Bool) (c : Char) (rest : List Char) : Except UnclosedFault Cut :=
  if isSpacing c then .ok (.blank, (rest.takeWhile isSpacing).length)
  else if isBlank c then .ok (.blank, 0)
  else if c.isDigit then .ok (.number, numberLength marked .absent rest)
  else if c = '"' then cutQuoted .quotedName '"' 0 rest
  else if c = '\'' then cutQuoted .quotedText '\'' 0 rest
  else if (c = 'N' ∨ c = 'n') ∧ rest.head? = some '\'' then cutQuoted .nationalText '\'' 1 rest
  else if c = '-' ∧ rest.head? = some '-' then
    .ok (.comment false, (rest.takeWhile fun d => !endsLine d).length)
  else if c = '/' ∧ rest.take 2 = ['*', '+'] then cutComment true 2 [] ['*', '/'] rest
  else if c = '/' ∧ rest.head? = some '*' then cutComment false 1 ['/', '*'] ['*', '/'] rest
  else if c = '{' ∧ rest.head? = some '#' then cutComment false 1 ['{', '#'] ['#', '}'] rest
  else .ok (cutPlain c rest)

/-- Whether a parameter's mark was the last piece, blanks and comments aside, once a further piece
has been read. -/
def marksParameter (marked : Bool) (lexeme : Lexeme) : Bool :=
  match lexeme.kind with
  | .blank | .comment _ => marked
  | .symbol => lexeme.text == ['@']
  | _ => false

/-- Cut a text that starts at a given position into its pieces. A parameter's mark comes before it
if `marked` is set. -/
def lexemesFrom (marked : Bool) (position : Nat) :
    List Char → Except UnclosedFault (List Lexeme)
  | [] => .ok []
  | c :: rest =>
      match cut marked c rest with
      | .error fault => .error fault
      | .ok (kind, extra) =>
          let lexeme : Lexeme := ⟨kind, position, c :: rest.take extra⟩
          (lexemesFrom (marksParameter marked lexeme) (position + extra + 1)
            (rest.drop extra)).map (lexeme :: ·)
termination_by text => text.length
decreasing_by
  simp only [List.length_drop, List.length_cons]
  omega

/-- Cut a statement into its pieces. -/
def lexemes (text : List Char) : Except UnclosedFault (List Lexeme) :=
  lexemesFrom false 0 text

/-! ## Commands and hints -/

namespace Lexeme

/-- The piece is a word that spells one of these in any case. -/
def spellsOneOf (lexeme : Lexeme) (words : List String) : Bool :=
  lexeme.kind == .word && words.any fun word => word.toList == upperWord lexeme.text

/-- The piece is the symbol of one character. -/
def isSymbol (lexeme : Lexeme) (c : Char) : Bool :=
  lexeme.kind == .symbol && lexeme.text == [c]

/-- Where a piece counts as starting when it is the last of a command: blanks count from their
end. -/
def anchor (lexeme : Lexeme) : Nat :=
  if lexeme.text.any isSpacing && lexeme.kind == .blank then lexeme.start + lexeme.text.length
  else lexeme.start

/-- Words that take the rest of the statement as one text. -/
def isCommand (lexeme : Lexeme) : Bool :=
  lexeme.spellsOneOf
    ["CALL", "EXPLAIN", "OPTIMIZE", "PREPARE", "VACUUM", "EXECUTE", "FETCH", "SHOW", "RENAME"]

/-- A command may follow this piece. -/
def opensCommand (lexeme : Lexeme) : Bool :=
  lexeme.isSymbol ';' || lexeme.spellsOneOf ["BEGIN"]

/-- A hint may follow this piece. -/
def opensHint (lexeme : Lexeme) : Bool :=
  lexeme.spellsOneOf ["SELECT", "INSERT", "UPDATE", "DELETE"]

end Lexeme

/-- The text of a command's arguments, if there are any. -/
def commandText? (arguments : List Lexeme) : Option Lexeme :=
  let text := Text.trimChars (arguments.flatMap Lexeme.text)
  match text, arguments.getLast? with
  | _ :: _, some last => some ⟨.quotedText (String.ofList text), last.anchor, text⟩
  | _, _ => none

/-- The pieces that count, given the one before them: blanks and comments go, a hint stays, and
the pieces after a command become one text. -/
def significantAfter (previous : Option Lexeme) : List Lexeme → List Lexeme
  | [] => []
  | lexeme :: rest =>
      match lexeme.kind with
      | .blank => significantAfter previous rest
      | .comment opensHint =>
          if opensHint && previous.any Lexeme.opensHint then
            let hint := { lexeme with kind := .hint }
            hint :: significantAfter (some hint) rest
          else significantAfter previous rest
      | _ =>
          if lexeme.isCommand && previous.all Lexeme.opensCommand then
            lexeme :: ((commandText? (rest.takeWhile (!·.isSymbol ';'))).toList ++
              significantAfter (some lexeme) (rest.dropWhile (!·.isSymbol ';')))
          else lexeme :: significantAfter (some lexeme) rest
termination_by lexemes => lexemes.length
decreasing_by
  all_goals simp only [List.length_cons]
  · omega
  · omega
  · omega
  · exact Nat.lt_succ_of_le (List.dropWhile_sublist _).length_le
  · omega

/-- The pieces of a statement that count. -/
def significant (lexemes : List Lexeme) : List Lexeme :=
  significantAfter none lexemes

end Query
end FlatTables
