import FlatTables.Query.Lexeme
import FlatTables.Rejection

/-!
# Tokens

The tokens of the grammar: keywords, names, operators, texts, numbers and five marks, closed by an
end token at the length of the statement. A sign directly before a number belongs to it. Every
other piece of a statement has to be one of these tokens, or the statement is rejected.
-/

namespace FlatTables
namespace Query

/-- What a token is. -/
inductive TokenForm
  | keyword (word : Keyword)
  | name (name : String)
  | operator (op : ComparisonOp)
  | text (content : String)
  | number (digits : String)
  | comma
  | open
  | close
  | star
  | semicolon
  | finish
  deriving DecidableEq, Repr

/-- A token and the position of its first character. -/
structure Token where
  form : TokenForm
  position : Nat
  deriving DecidableEq, Repr

namespace TokenForm

/-- The kind of a token. -/
def kind : TokenForm → String
  | .keyword _ => "keyword"
  | .name _ => "identifier"
  | .operator _ => "operator"
  | .text _ => "string"
  | .number _ => "number"
  | .comma => "comma"
  | .open => "lparen"
  | .close => "rparen"
  | .star => "star"
  | .semicolon => "semicolon"
  | .finish => "end"

/-- The text of a token: keywords in upper case, operators in their normal spelling, and texts
and names without their quotes. -/
def contents : TokenForm → String
  | .keyword word => word.text
  | .name s => s
  | .operator op => op.symbol
  | .text s => s
  | .number s => s
  | .comma => ","
  | .open => "("
  | .close => ")"
  | .star => "*"
  | .semicolon => ";"
  | .finish => ""

/-- A token in a message. -/
def display : TokenForm → String
  | .finish => "end of statement"
  | .text s => "'" ++ s ++ "'"
  | form => form.contents

end TokenForm

/-- An ASCII letter or the underscore, with which a plain word starts. -/
def startsPlainWord (c : Char) : Bool :=
  c.isAlpha || c == '_'

/-- A character of a plain word after its first one. -/
def continuesPlainWord (c : Char) : Bool :=
  startsPlainWord c || c.isDigit || c == '$'

/-- A word that is a name without quotes. -/
def isPlainWord : List Char → Bool
  | [] => false
  | c :: rest => startsPlainWord c && rest.all continuesPlainWord

/-- The token a symbol stands for. -/
def symbolForm? (spelling : List Char) : Option TokenForm :=
  match spelling with
  | [','] => some .comma
  | ['('] => some .open
  | [')'] => some .close
  | ['*'] => some .star
  | [';'] => some .semicolon
  | ['=', '='] => some (.operator .equal)
  | _ => (ComparisonOp.ofSymbol? (String.ofList spelling)).map .operator

/-- The name a word is, if it is plain. -/
def plainName? (word : List Char) : Option TokenForm :=
  if isPlainWord word then some (.name (String.ofList word)) else none

/-- The token a piece stands for. -/
def Lexeme.form? (lexeme : Lexeme) : Option TokenForm :=
  match lexeme.kind with
  | .number => some (.number (String.ofList lexeme.text))
  | .quotedText content => some (.text content)
  | .quotedName content => some (.name content)
  | .nationalText content => plainName? content.toList
  | .symbol => symbolForm? lexeme.text
  | .word =>
      match Keyword.ofWord? lexeme.text with
      | some word => some (.keyword word)
      | none => plainName? lexeme.text
  | .blank | .comment _ | .hint | .phrase => none

/-- The text from a position on, without blanks at its ends. -/
def clauseFrom (source : List Char) (position : Nat) : String :=
  String.ofList (Text.trimChars (source.drop position))

/-- The token of a piece, or a rejection. A piece that counts starts with a character that is no
blank, so the clause that is shown is never empty. -/
def Lexeme.token (source : List Char) (lexeme : Lexeme) : Except Rejection Token :=
  match lexeme.form? with
  | some form => .ok ⟨form, lexeme.start⟩
  | none => .error (.ungrammatical .unexpectedToken (clauseFrom source lexeme.start))

/-- The piece is a plus or minus. -/
def Lexeme.isSign (lexeme : Lexeme) : Bool :=
  lexeme.isSymbol '+' || lexeme.isSymbol '-'

/-- Put a sign and a number directly after it into one number. -/
def joinSigns : List Lexeme → List Lexeme
  | lexeme :: next :: rest =>
      if lexeme.isSign && next.kind == .number then
        ⟨.number, lexeme.start, lexeme.text ++ next.text⟩ :: joinSigns rest
      else lexeme :: joinSigns (next :: rest)
  | lexemes => lexemes

/-- The tokens of the pieces that count, stopping at the first that is no token. -/
def tokensOf (source : List Char) : List Lexeme → Except Rejection (List Token)
  | [] => .ok [⟨.finish, source.length⟩]
  | lexeme :: rest =>
      match lexeme.token source with
      | .error rejection => .error rejection
      | .ok token => (tokensOf source rest).map (token :: ·)

/-- How many characters before the last one a message shows of a text that is not closed. -/
def UnclosedFault.shown : UnclosedFault → Nat
  | .loneQuote | .comment => 48
  | .quote => 49
  | .doubledQuote => 50

/-- The part of a text that a message shows where something is not closed: a number of
characters before the last one. -/
def UnclosedFault.context (fault : UnclosedFault) (source : List Char) : String :=
  let before := source.dropLast
  String.ofList (before.drop (before.length - fault.shown))

/-- The tokens of a statement. -/
def tokenize (sql : String) : Except Rejection (List Token) :=
  let source := sql.toList
  match lexemes source with
  | .error fault =>
      .error (.ungrammatical (.unclosed (fault.context source)) (clauseFrom source 0))
  | .ok lexemes => tokensOf source (joinSigns (significant lexemes))

end Query
end FlatTables
