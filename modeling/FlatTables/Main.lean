import FlatTables.CommandLine.Run

/-!
# The command

The command works on the files below the current directory. It reads the schema file, the data
files named there and the script, if one is given, runs on them, and writes back what changed.
-/

namespace FlatTables
namespace Main

open CommandLine (Arguments Ending)
open Storage (Entry Folder Path Workspace)

/-- The names of the environment variables that are looked at. -/
def variableNames : List String :=
  ["STORAGE", "STORAGE__DATA_DIR", "STORAGE__SCHEMA_FILE", "STORAGE__TABLE_SUFFIX",
   "STORAGE__SYNC_WRITES", "SERVER", "SERVER__HOST", "SERVER__PORT", "SERVER__METRICS_PORT",
   "OBSERVABILITY", "OBSERVABILITY__LOG_LEVEL", "OBSERVABILITY__LOG_FORMAT",
   "OBSERVABILITY__METRICS_ENABLED", "OBSERVABILITY__OTEL_ENDPOINT",
   "OBSERVABILITY__OTEL_SERVICE_NAME"].map ("QUERY_ENGINE_" ++ ·)

/-- The environment variables that are set. -/
def readEnvironment : IO Settings.Environment :=
  variableNames.filterMapM fun name => do
    return (← IO.getEnv name).map (name, ·)

/-- What stands at a path of the file system. -/
def readEntry (path : Path) : IO (Option Entry) := do
  try
    return some (.file (← IO.FS.readBinFile path.text))
  catch
    | .noFileOrDirectory .. => return none
    | _ => return some .directory

/-- Add what stands at a path to a workspace. -/
def readInto (workspace : Workspace) (path : Path) : IO Workspace := do
  match ← readEntry path with
  | none => return workspace
  | some entry => return workspace.plant path.components entry

/-- Read the files that a run may look at. -/
def readWorkspace (folder : Folder) (arguments : Arguments) : IO Workspace := do
  let scripts := arguments.file.toList
  let workspace ← (folder.schemaPath :: scripts).foldlM readInto {}
  match folder.readSchemas workspace with
  | .error _ => return workspace
  | .ok schemas => (schemas.map fun named => folder.tablePath named.1).foldlM readInto workspace

/-- Write the files that a run has changed. -/
def writeChanges (before after : Workspace) : IO Unit :=
  for (place, entry) in after.entries do
    if before.entries.lookup place != some entry then
      match entry with
      | .file content => IO.FS.writeBinFile ("/".intercalate place) content
      | .directory => pure ()

/-- Read a stream to its end. -/
def readToEnd (stream : IO.FS.Stream) : IO String := do
  let mut text := ""
  let mut line ← stream.getLine
  while line ≠ "" do
    text := text ++ line
    line ← stream.getLine
  return text

/-- Everything on the standard input, unless the arguments already say what to execute. -/
def readInput (arguments : Arguments) : IO String := do
  if arguments.command.any (· ≠ "") ∨ arguments.file.isSome ∨ arguments.serve then return ""
  else readToEnd (← IO.getStdin)

/-- Print the message of a run that did not end with an exit code, and choose one. -/
def report : Ending → IO UInt32
  | .exit code => return code.toUInt32
  | .serve .. => do
      IO.eprintln "Error: no server is included"
      return 1
  | .unusable fault => do
      IO.eprintln ("Error: " ++ fault.message)
      return 1
  | .escaped fault => do
      IO.eprintln ("Error: " ++ fault.message)
      return 1

/-- Run the command. -/
def run (arguments : List String) : IO UInt32 := do
  let environment ← readEnvironment
  match CommandLine.prepare environment arguments with
  | .error (ending, console) =>
      IO.eprint console.errors
      report ending
  | .ok (settings, arguments) =>
      let folder := CommandLine.folderOf (CommandLine.override settings arguments)
      let workspace ← readWorkspace folder arguments
      let result := CommandLine.runWith settings arguments (← readInput arguments) workspace
      writeChanges workspace result.workspace
      IO.print result.console.output
      IO.eprint result.console.errors
      report result.ending

end Main
end FlatTables

/-- Run the command. -/
def main (arguments : List String) : IO UInt32 :=
  FlatTables.Main.run arguments
