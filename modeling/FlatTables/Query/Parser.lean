import FlatTables.Query.Statement
import FlatTables.Query.Token

/-!
# Parsing

A statement is read from its tokens from left to right. A condition is read differently: all
tokens up to a semicolon or the end are collected first, and their one operator divides them. A
fault is reported with the text from the token at fault on, or with the text of the condition.

The grammar is

    statement  := select | insert | delete, optionally followed by ";"
    select     := SELECT ( "*" | names ) FROM name [ WHERE condition ]
    insert     := INSERT INTO name "(" names ")" VALUES "(" literals ")"
    delete     := DELETE FROM name [ WHERE condition ]
    names      := name ( "," name )*
    literals   := literal ( "," literal )*
    literal    := text | number
    condition  := name operator ( literal | name )
-/

namespace FlatTables
namespace Query
namespace Parser

/-- What has been read, with the tokens after it. -/
abbrev Read (α : Type) := α × List Token

/-- The token a list of tokens starts with; a list without an end token ends like one. -/
def headToken (source : List Char) (tokens : List Token) : Token :=
  tokens.headD ⟨.finish, source.length⟩

/-- The rejection of tokens that do not start as they should. -/
def unexpected (source : List Char) (what : Expectation) (tokens : List Token) : Rejection :=
  let token := headToken source tokens
  .ungrammatical (.expected what token.form.display) (clauseFrom source token.position)

/-- Read one token of a fixed form. -/
def expect (source : List Char) (form : TokenForm) (what : Expectation) :
    List Token → Except Rejection (List Token)
  | token :: rest =>
      if token.form = form then .ok rest else .error (unexpected source what (token :: rest))
  | [] => .error (unexpected source what [])

/-- Read a keyword. -/
def expectKeyword (source : List Char) (word : Keyword) (tokens : List Token) :
    Except Rejection (List Token) :=
  expect source (.keyword word) (.keyword word) tokens

/-- Read a name. -/
def name (source : List Char) (what : Expectation) : List Token → Except Rejection (Read String)
  | ⟨.name name, _⟩ :: rest => .ok (name, rest)
  | tokens => .error (unexpected source what tokens)

/-- Read the names after the first one of a list. -/
def moreNames (source : List Char) : List Token → Except Rejection (Read (List String))
  | ⟨.comma, _⟩ :: ⟨.name name, _⟩ :: rest =>
      (moreNames source rest).map fun (names, rest) => (name :: names, rest)
  | ⟨.comma, _⟩ :: rest => .error (unexpected source .attributeName rest)
  | tokens => .ok ([], tokens)

/-- Read a list of attribute names. -/
def names (source : List Char) (tokens : List Token) : Except Rejection (Read (List String)) := do
  let (first, rest) ← name source .attributeName tokens
  let (others, rest) ← moreNames source rest
  return (first :: others, rest)

/-- The literal a token is; texts get their quotes back. -/
def literal? : TokenForm → Option String
  | .text content => some ("'" ++ content ++ "'")
  | .number digits => some digits
  | _ => none

/-- Read a literal. -/
def literal (source : List Char) (tokens : List Token) : Except Rejection (Read String) :=
  match tokens with
  | [] => .error (unexpected source .literal [])
  | token :: rest =>
      match literal? token.form with
      | some literal => .ok (literal, rest)
      | none => .error (unexpected source .literal tokens)

/-- Read the literals after the first one of a list. -/
def moreLiterals (source : List Char) : List Token → Except Rejection (Read (List String))
  | ⟨.comma, _⟩ :: token :: rest =>
      match literal? token.form with
      | some literal =>
          (moreLiterals source rest).map fun (literals, rest) => (literal :: literals, rest)
      | none => .error (unexpected source .literal (token :: rest))
  | [⟨.comma, _⟩] => .error (unexpected source .literal [])
  | tokens => .ok ([], tokens)

/-- Read a list of literals. -/
def literals (source : List Char) (tokens : List Token) : Except Rejection (Read (List String)) := do
  let (first, rest) ← literal source tokens
  let (others, rest) ← moreLiterals source rest
  return (first :: others, rest)

/-- A token at which a condition ends. -/
def endsCondition (token : Token) : Bool :=
  token.form == .semicolon || token.form == .finish

/-- The token is an operator. -/
def isOperator (token : Token) : Bool :=
  match token.form with
  | .operator _ => true
  | _ => false

/-- The literal on the right of an operator: besides literals also a name. -/
def operand? : TokenForm → Option String
  | .name name => some name
  | form => literal? form

/-- The condition that tokens make up, or what is wrong with them. -/
def conditionOf (tokens : List Token) : Except ConditionFault Condition :=
  if tokens = [] then .error .empty
  else
    match tokens.filter isOperator with
    | [] => .error .noOperator
    | _ :: _ :: _ => .error .manyOperators
    | [_] =>
        match tokens.takeWhile (!isOperator ·), tokens.dropWhile (!isOperator ·) with
        | [⟨.name column, _⟩], ⟨.operator op, _⟩ :: right =>
            match right with
            | [operand] =>
                match operand? operand.form with
                | some literal => .ok ⟨column, op, literal⟩
                | none => .error (.notLiteral operand.form.display)
            | _ => .error .rightSide
        | _, _ => .error .leftSide

/-- The text between two positions, without blanks at its ends. -/
def clauseBetween (source : List Char) (start stop : Nat) : String :=
  String.ofList (Text.trimChars ((source.take stop).drop start))

/-- Read the condition after WHERE. -/
def condition (source : List Char) (tokens : List Token) : Except Rejection (Read Condition) :=
  let rest := tokens.dropWhile (!endsCondition ·)
  match conditionOf (tokens.takeWhile (!endsCondition ·)) with
  | .ok condition => .ok (condition, rest)
  | .error fault =>
      .error (.malformedCondition fault
        (clauseBetween source (headToken source tokens).position
          (headToken source rest).position))

/-- Read an optional condition with its keyword. -/
def optionalCondition (source : List Char) : List Token → Except Rejection (Read (Option Condition))
  | ⟨.keyword .where, _⟩ :: rest =>
      (condition source rest).map fun (condition, rest) => (some condition, rest)
  | tokens => .ok (none, tokens)

/-- Read the columns of a query. -/
def columns (source : List Char) : List Token → Except Rejection (Read Columns)
  | ⟨.star, _⟩ :: rest => .ok (.all, rest)
  | tokens => (names source tokens).map fun (names, rest) => (.listed names, rest)

/-- Read a query after its first keyword. -/
def select (source : List Char) (tokens : List Token) : Except Rejection (Read Statement) := do
  let (columns, rest) ← columns source tokens
  let rest ← expectKeyword source .from rest
  let (table, rest) ← name source .tableName rest
  let (condition, rest) ← optionalCondition source rest
  return (.select columns table condition, rest)

/-- Read an insertion after its first keyword. -/
def insert (source : List Char) (tokens : List Token) : Except Rejection (Read Statement) := do
  let rest ← expectKeyword source .into tokens
  let (table, rest) ← name source .tableName rest
  let rest ← expect source .open .openAttributes rest
  let (attributes, rest) ← names source rest
  let rest ← expect source .close .closeAttributes rest
  let rest ← expectKeyword source .values rest
  let rest ← expect source .open .openValues rest
  let (literals, rest) ← literals source rest
  let rest ← expect source .close .closeValues rest
  return (.insert table attributes literals, rest)

/-- Read a deletion after its first keyword. -/
def delete (source : List Char) (tokens : List Token) : Except Rejection (Read Statement) := do
  let rest ← expectKeyword source .from tokens
  let (table, rest) ← name source .tableName rest
  let (condition, rest) ← optionalCondition source rest
  return (.delete table condition, rest)

/-- Read a statement up to its optional semicolon. -/
def statement (source : List Char) : List Token → Except Rejection (Read Statement)
  | ⟨.keyword .select, _⟩ :: rest => select source rest
  | ⟨.keyword .insert, _⟩ :: rest => insert source rest
  | ⟨.keyword .delete, _⟩ :: rest => delete source rest
  | _ => .error (.ungrammatical .unsupported (clauseFrom source 0))

/-- Drop a semicolon at the front. -/
def skipSemicolon : List Token → List Token
  | ⟨.semicolon, _⟩ :: rest => rest
  | tokens => tokens

/-- Read the one statement that tokens make up. -/
def ofTokens (source : List Char) (tokens : List Token) : Except Rejection Statement := do
  let (statement, rest) ← statement source tokens
  let last := headToken source (skipSemicolon rest)
  if last.form = .finish then return statement
  else .error (.ungrammatical .trailing (clauseFrom source last.position))

end Parser

/-- Read a statement from its text. -/
def Statement.parse (sql : String) : Except Rejection Statement :=
  if Text.isBlankText sql then .error (.ungrammatical .empty "")
  else
    match tokenize sql with
    | .error rejection => .error rejection
    | .ok tokens => Parser.ofTokens sql.toList tokens

end Query
end FlatTables
