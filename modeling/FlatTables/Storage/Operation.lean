import FlatTables.Storage.Folder

/-!
# Writing step by step

The steps of which appending a row and overwriting a table consist. Steps leave a workspace behind
whether they succeed or fail, and what was done before a failure stays done unless a later step
takes it back.
-/

namespace FlatTables
namespace Storage

/-- Steps on a workspace: they end with a result or a fault and leave a workspace behind. -/
abbrev Operation (α : Type) := ExceptT WriteFault (StateM Workspace) α

namespace Workspace

/-- Remove the entry at a place. -/
def unlink (workspace : Workspace) (place : List String) : Workspace :=
  { entries := workspace.entries.filter fun entry => entry.1 ≠ place }

/-- Move the file at a place over a path. -/
def moveOver (workspace : Workspace) (source : List String) (path : Path) :
    Except AccessFault Workspace :=
  match workspace.entryAt? source with
  | some (.file bytes) => (workspace.replace path bytes).map (·.unlink source)
  | _ => .error (.system (Obstacle.notFound.fault [temporaryName, path.text]))

end Workspace

namespace Operation

variable {α : Type}

/-- What steps come to from a workspace, and the workspace they leave behind. -/
def perform (operation : Operation α) (before : Workspace) : Except WriteFault α × Workspace :=
  operation.run.run before

/-- Ask a workspace something and leave it as it is. -/
def ask (question : Workspace → Except AccessFault α) : Operation α :=
  ExceptT.mk fun workspace => ((question workspace).mapError .ofAccess, workspace)

/-- Change the workspace, or fail and leave it as it is. -/
def attempt (change : Workspace → Except AccessFault Workspace) : Operation Unit :=
  ExceptT.mk fun workspace =>
    match change workspace with
    | .ok after => (.ok (), after)
    | .error fault => (.error (.ofAccess fault), workspace)

/-- Put a file at a place. -/
def put (place : List String) (bytes : ByteArray) : Operation Unit :=
  attempt fun workspace => .ok (workspace.insert place (.file bytes))

/-- The system fault if something stands at every name a temporary file could have. -/
def noTemporaryName : SystemFault :=
  .numbered 17 "No usable temporary file name found" []

/-- Make an empty file at the first of some names in a directory at which nothing stands. -/
def makeFirst (directory : List String) : List String → Operation (List String)
  | [] => throw (.system noTemporaryName)
  | name :: rest => do
      let taken ← ask fun workspace => .ok (workspace.entryAt? (directory ++ [name])).isSome
      if taken then makeFirst directory rest
      else
        put (directory ++ [name]) .empty
        return directory ++ [name]

/-- The name of a temporary file for a path. -/
def temporaryNameFor (path : Path) (candidate : String) : String :=
  "." ++ path.name ++ "." ++ candidate ++ ".tmp"

/-- Make a temporary file for a path. -/
def makeTemporary (path : Path) (candidates : List String) : Operation (List String) := do
  let directory ← ask (·.temporaryPlace path)
  makeFirst directory (candidates.map (temporaryNameFor path))

/-- An interruption: how many bytes reach the file before it, and its cause. -/
structure Interruption where
  written : Nat
  cause : SystemFault

/-- The bytes that reach a file; only the first of them do if there is an interruption. -/
def reaching (bytes : ByteArray) : Option Interruption → ByteArray
  | none => bytes
  | some interruption => bytes.extract 0 interruption.written

/-- Fail if there is an interruption. -/
def breakOff : Option Interruption → Operation Unit
  | none => return ()
  | some interruption => throw (.system interruption.cause)

/-- Give the file at a place its content. -/
def fill (place : List String) (bytes : ByteArray) (interruption : Option Interruption) :
    Operation Unit := do
  put place (reaching bytes interruption)
  breakOff interruption

/-- Fill the temporary file at a place and move it over a path. -/
def fillAndMove (temporary : List String) (path : Path) (bytes : ByteArray)
    (interruption : Option Interruption) : Operation Unit := do
  fill temporary bytes interruption
  attempt (·.moveOver temporary path)

/-- Remove the temporary file at a place and report why it has not been moved over a path. -/
def cleanUp (temporary : List String) (path : Path) (cause : SystemFault) : Operation Unit := do
  attempt fun workspace => .ok (workspace.unlink temporary)
  throw (.storage (.overwriteFailed cause path))

/-- Replace the file at a path through a temporary file, which is removed if the system refuses a
step after it has been made. -/
def replaceThrough (path : Path) (bytes : ByteArray) (candidates : List String)
    (interruption : Option Interruption) : Operation Unit := do
  let temporary ← makeTemporary path candidates
  try fillAndMove temporary path bytes interruption
  catch fault =>
    match fault with
    | .system cause => cleanUp temporary path cause
    | _ => throw fault

/-- Add bytes at the end of the file at a path. -/
def extend (path : Path) (bytes : ByteArray) (interruption : Option Interruption) :
    Operation Unit := do
  attempt (·.append path (reaching bytes interruption))
  breakOff interruption

/-- Add a line to the file at a path, on a line of its own. Opening a file for appending makes it if
there is none, which is to append nothing. What reached the file before an interruption is not taken
back. -/
def addLine (path : Path) (line : String) (interruption : Option Interruption) :
    Operation Unit := do
  let atLineStart ← ask fun workspace => Folder.takesLine workspace path
  attempt (·.append path .empty)
  extend path (DataFile.ownLine atLineStart line).toUTF8 interruption

end Operation

namespace Folder

open Operation

/-- The name under which a table is kept. -/
def nameOf (table : Table) : Operation String :=
  match table.name with
  | none => throw (.storage .unnamedTable)
  | some name => return name

/-- The result of encoding rows for a file. -/
def encoded {α : Type} (path : Path) : Except DataFile.EncodingFault α → Operation α
  | .error fault => throw (encodingFailure path fault)
  | .ok lines => return lines

/-- Append a row step by step. -/
def appendBySteps (folder : Folder) (table : Table) (row : Row)
    (interruption : Option Interruption) : Operation Unit := do
  let name ← nameOf table
  let path := folder.tablePath name
  let line ← encoded path (DataFile.encode row)
  try addLine path line interruption
  catch fault =>
    match fault with
    | .system cause => throw (.storage (.appendFailed name cause path))
    | _ => throw fault

/-- Overwrite a table step by step. -/
def overwriteBySteps (folder : Folder) (table : Table) (candidates : List String)
    (interruption : Option Interruption) : Operation Unit := do
  let name ← nameOf table
  let path := folder.tablePath name
  let lines ← encoded path (DataFile.encodeAll table.rows)
  replaceThrough path (DataFile.textOf lines).toUTF8 candidates interruption

end Folder
end Storage
end FlatTables
