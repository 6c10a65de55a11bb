import FlatTables.Engine.Database

/-!
# Shell

The front end for lines of text: typed input and scripts. Results go to the output and messages
about rejected statements and failed writes to the error output. Typed input is prompted for and
ends at a line that asks to leave; a script runs to its end whatever happens to its statements.
-/

namespace FlatTables

open Engine (Database Reply)
open Storage (Gateway)

/-- All that has been written to the output and to the error output. -/
structure Console where
  output : String := ""
  errors : String := ""
  deriving DecidableEq, Repr

namespace Console

/-- Write to the output. -/
def write (console : Console) (text : String) : Console :=
  { console with output := console.output ++ text }

/-- Write a line to the output. -/
def writeLine (console : Console) (text : String) : Console :=
  console.write (text ++ "\n")

/-- Write a line to the error output. -/
def writeError (console : Console) (text : String) : Console :=
  { console with errors := console.errors ++ text ++ "\n" }

end Console

/-- A database and the console that shows its results. -/
structure Shell (σ : Type) where
  database : Database σ
  console : Console := {}

namespace Shell

/-- What a call of the shell came to, and the shell after it. -/
structure Step (σ α : Type) where
  result : Except Fault α
  shell : Shell σ

/-! ## Statements -/

/-- The line written about a change that has not been stored. -/
def writeWarning : String :=
  "Warning: the change was applied in memory but not written to disk"

/-- The text of a reply that is not a rejection: the returned table, or the message. -/
def replyText (reply : Reply) : Except Fault String :=
  match reply.table? with
  | none => .ok reply.message
  | some table =>
      match table.render? with
      | some text => .ok text
      | none => .error .oversizedInteger

/-- Show a reply. -/
def show? (console : Console) (reply : Reply) : Except Fault Console :=
  match reply.rejection? with
  | some rejection => .ok (console.writeError ("Invalid Query: " ++ rejection.message))
  | none => do
      let shown := console.writeLine (← replyText reply)
      return if reply.persisted then shown else shown.writeError writeWarning

/-- Execute a statement and show the reply. The answer tells whether the statement was accepted
and all its changes have been stored. -/
def runStatement (gateway : Gateway σ) (shell : Shell σ) (sql : String) : Step σ Bool :=
  let turn := shell.database.execute gateway sql
  let after : Shell σ := { shell with database := turn.database }
  match turn.result with
  | .error fault => ⟨.error fault, after⟩
  | .ok reply =>
      match show? shell.console reply with
      | .error fault => ⟨.error fault, after⟩
      | .ok console => ⟨.ok (reply.success && reply.persisted), { after with console }⟩

/-! ## Typed input -/

/-- What an input line asks for. -/
inductive Request
  | nothing
  | leave
  | statement (sql : String)
  deriving DecidableEq, Repr

/-- Words that ask to leave, in lower case. -/
def leaveWords : List String :=
  ["exit", "quit", "\\q"]

/-- What a line asks for, blanks around it aside. -/
def Request.ofLine (line : String) : Request :=
  let text := Text.trimChars line.toList
  if text = [] then .nothing
  else if String.ofList (text.map Char.toLower) ∈ leaveWords then .leave
  else .statement (String.ofList text)

/-- Do what a line asks for. The answer tells whether to go on. -/
def handleLine (gateway : Gateway σ) (shell : Shell σ) (line : String) : Step σ Bool :=
  match Request.ofLine line with
  | .nothing => ⟨.ok true, shell⟩
  | .leave => ⟨.ok false, shell⟩
  | .statement sql =>
      let step := runStatement gateway shell sql
      ⟨step.result.map fun _ => true, step.shell⟩

/-- Show the prompt. -/
def prompted (shell : Shell σ) (prompt : String) : Shell σ :=
  { shell with console := shell.console.write prompt }

/-- Prompt for lines and handle them until one asks to leave or the input ends. -/
def converse (gateway : Gateway σ) (prompt : String) (shell : Shell σ) :
    List String → Step σ Unit
  | [] =>
      let ended := shell.prompted prompt
      ⟨.ok (), { ended with console := ended.console.write "\n" }⟩
  | line :: rest =>
      let step := handleLine gateway (shell.prompted prompt) line
      match step.result with
      | .error fault => ⟨.error fault, step.shell⟩
      | .ok false => ⟨.ok (), step.shell⟩
      | .ok true => converse gateway prompt step.shell rest

/-- The lines of typed input. -/
def inputLines (input : String) : List String :=
  (Text.splitLines Text.isLineFeed input.toList).map String.ofList

/-- Run the shell over typed input. -/
def run (gateway : Gateway σ) (prompt : String) (shell : Shell σ) (input : String) : Step σ Unit :=
  converse gateway prompt shell (inputLines input)

/-- The usual prompt. -/
def defaultPrompt : String := "$ "

/-! ## Scripts -/

/-- The statement on a line of a script, unless the line is blank or a comment. -/
def scriptStatement? (line : String) : Option String :=
  let text := Text.trimChars line.toList
  if text = [] ∨ ['-', '-'].isPrefixOf text then none else some (String.ofList text)

/-- Run statements in order. The answer tells whether all of them were accepted and stored. -/
def runStatements (gateway : Gateway σ) (shell : Shell σ) : List String → Step σ Bool
  | [] => ⟨.ok true, shell⟩
  | sql :: rest =>
      let step := runStatement gateway shell sql
      match step.result with
      | .error fault => ⟨.error fault, step.shell⟩
      | .ok good =>
          let others := runStatements gateway step.shell rest
          ⟨others.result.map (good && ·), others.shell⟩

/-- Run the statements of a script. A script that is not valid text fails after the lines that
could be read. -/
def runScript (gateway : Gateway σ) (shell : Shell σ) (script : ByteArray) : Step σ Bool :=
  let stream := Text.decodeStream script
  let step := runStatements gateway shell (stream.lines.filterMap scriptStatement?)
  match step.result, stream.fault with
  | .ok _, some fault => ⟨.error (.encoding fault), step.shell⟩
  | _, _ => step

/-- Run the script at a path of the workspace, as it reads before its first statement. -/
def runFile (gateway : Gateway Storage.Workspace) (shell : Shell Storage.Workspace)
    (path : Storage.Path) : Step Storage.Workspace Bool :=
  match shell.database.storage.read path with
  | .error fault => ⟨.error (.ofAccess fault), shell⟩
  | .ok script => runScript gateway shell script

end Shell
end FlatTables
