import FlatTables.Query.Parser

/-!
# Reading through a cursor

The same reading step by step. The tokens of a statement lie on a tape, and a cursor moves over it:
a step looks at the token under the cursor, and any token but the end may be passed. A step ends
with a result or stops without one, and leaves the cursor somewhere. Lists are read and conditions
are collected by going on until a step has nothing to give. This need not ever happen, so only a
limited number of rounds is made before reading stops as unfinished.
-/

namespace FlatTables
namespace Query

/-- Why reading stops: the cursor does not stand on the tape, a loop has had all its rounds, or the
statement is rejected. -/
inductive Stop
  | outside
  | unfinished
  | rejected (rejection : Rejection)
  deriving DecidableEq, Repr

/-- Steps that move a cursor. They end with a result or a stop and leave the cursor at a place; how
many rounds a loop may have is given. -/
abbrev Reading (α : Type) := ReaderT Nat (ExceptT Stop (StateM Nat)) α

namespace Reading

variable {α : Type}

/-- What steps come to from a place of the cursor, and the place where they leave it. -/
def perform (reading : Reading α) (rounds start : Nat) : Except Stop α × Nat :=
  ((reading.run rounds).run.run start).run

/-- Go on with a step until it gives nothing, at most for a number of rounds. -/
def collectWithin (step : Reading (Option α)) : (rounds : Nat) → Reading (List α)
  | 0 => throw .unfinished
  | rounds + 1 => do
      match ← step with
      | none => return []
      | some item => return item :: (← collectWithin step rounds)

/-- Go on with a step until it gives nothing, and keep what it has given. -/
def collect (step : Reading (Option α)) : Reading (List α) := do
  collectWithin step (← read)

end Reading

/-- The tokens of a statement and the text that they were cut from. -/
structure Tape where
  source : List Char
  tokens : List Token
  deriving DecidableEq, Repr

namespace Tape

variable {α : Type} (tape : Tape)

/-- The token under the cursor. -/
def peek : Reading Token := do
  match tape.tokens[← get]? with
  | some token => return token
  | none => throw .outside

/-- Pass the token under the cursor, unless it is the end. -/
def advance : Reading Token := do
  let token ← tape.peek
  if token.form ≠ .finish then modify (· + 1)
  return token

/-- Pass the token under the cursor if it has a given form, and tell whether it has. -/
def accept (form : TokenForm) : Reading Bool := do
  if (← tape.peek).form = form then
    let _ ← tape.advance
    return true
  else return false

/-- Stop at a token where something else is expected. -/
def refuse (what : Expectation) (token : Token) : Reading α :=
  throw (.rejected (.ungrammatical (.expected what token.form.display)
    (clauseFrom tape.source token.position)))

/-- Pass the token under the cursor if it holds what is looked for. -/
def expect (held? : TokenForm → Option α) (what : Expectation) : Reading α := do
  let token ← tape.peek
  match held? token.form with
  | some held =>
      let _ ← tape.advance
      return held
  | none => tape.refuse what token

/-- Pass a token of a fixed form. -/
def expectForm (form : TokenForm) (what : Expectation) : Reading Unit :=
  tape.expect (fun own => if own = form then some () else none) what

/-- Pass a keyword. -/
def expectKeyword (word : Keyword) : Reading Unit :=
  tape.expectForm (.keyword word) (.keyword word)

/-- The name a token is. -/
def name? : TokenForm → Option String
  | .name name => some name
  | _ => none

/-- Read a name. -/
def name (what : Expectation) : Reading String :=
  tape.expect name? what

/-- Read a literal. -/
def literal : Reading String :=
  tape.expect Parser.literal? .literal

/-- Read items with commas between them. -/
def list (item : Reading α) : Reading (List α) := do
  let first ← item
  let others ← Reading.collect do
    if ← tape.accept .comma then return some (← item)
    else return none
  return first :: others

/-- Read a list of attribute names. -/
def names : Reading (List String) :=
  tape.list (tape.name .attributeName)

/-- Read a list of literals. -/
def literals : Reading (List String) :=
  tape.list tape.literal

/-- Pass all tokens up to the one at which a condition ends. -/
def upToEnding : Reading (List Token) :=
  Reading.collect do
    if Parser.endsCondition (← tape.peek) then return none
    else return some (← tape.advance)

/-- Read the condition after WHERE. -/
def condition : Reading Condition := do
  let first ← tape.peek
  let inside ← tape.upToEnding
  let ending ← tape.peek
  match Parser.conditionOf inside with
  | .ok condition => return condition
  | .error fault =>
      throw (.rejected (.malformedCondition fault
        (Parser.clauseBetween tape.source first.position ending.position)))

/-- Read an optional condition with its keyword. -/
def optionalCondition : Reading (Option Condition) := do
  if ← tape.accept (.keyword .where) then return some (← tape.condition)
  else return none

/-- Read the columns of a query. -/
def columns : Reading Columns := do
  if ← tape.accept .star then return .all
  else return .listed (← tape.names)

/-- Read a query. -/
def select : Reading Statement := do
  tape.expectKeyword .select
  let columns ← tape.columns
  tape.expectKeyword .from
  let table ← tape.name .tableName
  let condition ← tape.optionalCondition
  return .select columns table condition

/-- Read an insertion. -/
def insert : Reading Statement := do
  tape.expectKeyword .insert
  tape.expectKeyword .into
  let table ← tape.name .tableName
  tape.expectForm .open .openAttributes
  let attributes ← tape.names
  tape.expectForm .close .closeAttributes
  tape.expectKeyword .values
  tape.expectForm .open .openValues
  let literals ← tape.literals
  tape.expectForm .close .closeValues
  return .insert table attributes literals

/-- Read a deletion. -/
def delete : Reading Statement := do
  tape.expectKeyword .delete
  tape.expectKeyword .from
  let table ← tape.name .tableName
  let condition ← tape.optionalCondition
  return .delete table condition

/-- Read a statement up to its optional semicolon. -/
def statement : Reading Statement := do
  match (← tape.peek).form with
  | .keyword .select => tape.select
  | .keyword .insert => tape.insert
  | .keyword .delete => tape.delete
  | _ => throw (.rejected (.ungrammatical .unsupported (clauseFrom tape.source 0)))

/-- Read the one statement that stands on the tape. -/
def parse : Reading Statement := do
  let statement ← tape.statement
  let _ ← tape.accept .semicolon
  let last ← tape.peek
  if last.form = .finish then return statement
  else throw (.rejected (.ungrammatical .trailing (clauseFrom tape.source last.position)))

end Tape
end Query
end FlatTables
