import FlatTables.CommandLine.Arguments
import FlatTables.Settings.Environment
import FlatTables.Shell
import FlatTables.Storage.Folder

/-!
# Command-line runs

A run reads its arguments and settings, starts the database, and executes one statement, a
script, or typed input. It ends with an exit code unless a fault escapes; the database is stopped
in either case. Serving requests is left to the caller.
-/

namespace FlatTables
namespace CommandLine

open Engine (Database)
open Settings (Environment LoadFault)
open Storage (Folder Path Workspace)

/-- How a run ends. -/
inductive Ending
  | exit (code : Nat)
  | serve (host : String) (portNumber : Int)
  | unusable (fault : LoadFault)
  | escaped (fault : Fault)
  deriving DecidableEq, Repr

/-- What a run has printed, how it ended, and the workspace after it. -/
structure Result where
  ending : Ending
  console : Console
  workspace : Workspace

/-- What the command is called in its messages. -/
def programName : String := "query_engine"

/-- A run that ends before the database is started. -/
def Result.early (ending : Ending) (workspace : Workspace) : Result :=
  ⟨ending, {}, workspace⟩

/-- A run that ends with a message on the error output. -/
def Result.failed (code : Nat) (message : String) (workspace : Workspace) : Result :=
  ⟨.exit code, Console.writeError {} message, workspace⟩

/-- Settings with those that the arguments override. -/
def override (settings : Settings) (arguments : Arguments) : Settings :=
  let storage := settings.storage
  let server := settings.server
  { settings with
    storage := { storage with directory := arguments.directory.getD storage.directory }
    server :=
      { server with
        host := arguments.host.getD server.host
        portNumber := arguments.portNumber.getD server.portNumber } }

/-- The folder that the settings name. -/
def folderOf (settings : Settings) : Folder :=
  ⟨settings.storage.directory, settings.storage.schemaFile, settings.storage.suffix⟩

/-- The exit code of a run that executed statements. -/
def exitCode (good : Bool) : Nat :=
  if good then 0 else 1

/-- Do what the arguments ask for on a started database. -/
def act (settings : Settings) (arguments : Arguments) (shell : Shell Workspace) (input : String) :
    Shell.Step Workspace Ending :=
  let gateway := (folderOf settings).gateway
  match arguments.command.filter (· ≠ ""), arguments.file with
  | some sql, _ =>
      let step := shell.runStatement gateway sql
      ⟨step.result.map fun good => .exit (exitCode good), step.shell⟩
  | none, some path =>
      let step := shell.runFile gateway path
      ⟨step.result.map fun good => .exit (exitCode good), step.shell⟩
  | none, none =>
      if arguments.serve then ⟨.ok (.serve settings.server.host settings.server.portNumber), shell⟩
      else
        let step := shell.run gateway Shell.defaultPrompt input
        ⟨step.result.map fun _ => .exit 0, step.shell⟩

/-- Start the database, do what the arguments ask for, and stop it. -/
def operate (settings : Settings) (arguments : Arguments) (input : String)
    (workspace : Workspace) : Result :=
  let database : Database Workspace := { storage := workspace }
  let started := database.start (folderOf settings).gateway
  match started.result with
  | .error (.storage fault) => .failed 1 ("Error: " ++ fault.message) workspace
  | .error fault => .early (.escaped fault) workspace
  | .ok () =>
      let step := act settings arguments { database := started.database } input
      let stopped := step.shell.database.stop
      let ending :=
        match step.result, stopped.result with
        | _, .error fault => .escaped fault
        | .error fault, _ => .escaped fault
        | .ok ending, _ => ending
      ⟨ending, step.shell.console, stopped.database.storage⟩

/-- The path of the script if one is given and nothing stands there. -/
def missingScript? (arguments : Arguments) (workspace : Workspace) : Except Fault (Option Path) :=
  match arguments.file with
  | none => .ok none
  | some path =>
      match workspace.isPresent path with
      | .error fault => .error (.system fault)
      | .ok true => .ok none
      | .ok false => .ok (some path)

/-- Run with given settings and arguments. -/
def runWith (settings : Settings) (arguments : Arguments) (input : String)
    (workspace : Workspace) : Result :=
  match missingScript? arguments workspace with
  | .error fault => .early (.escaped fault) workspace
  | .ok (some path) => .failed 1 ("Error: File not found: " ++ path.text) workspace
  | .ok none => operate (override settings arguments) arguments input workspace

/-- The settings and arguments of a run, or how it ends without them and what it prints. -/
def prepare (environment : Environment) (arguments : List String) :
    Except (Ending × Console) (Settings × Arguments) :=
  match read arguments with
  | .error fault =>
      .error (.exit 2, Console.writeError {} (programName ++ ": error: " ++ fault.message))
  | .ok .help => .error (.exit 0, {})
  | .ok (.run arguments) =>
      match Settings.load environment (.object []) with
      | .error fault => .error (.unusable fault, {})
      | .ok settings => .ok (settings, arguments)

/-- Run a command line over typed input. -/
def run (environment : Environment) (arguments : List String) (input : String)
    (workspace : Workspace) : Result :=
  match prepare environment arguments with
  | .error (ending, console) => ⟨ending, console, workspace⟩
  | .ok (settings, arguments) => runWith settings arguments input workspace

end CommandLine
end FlatTables
