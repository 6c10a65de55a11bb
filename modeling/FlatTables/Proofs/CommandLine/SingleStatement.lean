import FlatTables.CommandLine.Run
import FlatTables.Proofs.Samples
import FlatTables.Proofs.Shell.Conversation

/-!
# Command lines with one statement

A command line that gives a statement executes it and nothing else. The text is passed to the
database as it is given, so all that is shown and the exit code come from its reply. The empty text
is the one exception: it counts as no statement, and typed input is read in its place.
-/

namespace FlatTables
namespace CommandLine

open Engine (Database Reply Turn sampleDatabase)
open Settings (Environment)
open Storage (Folder Workspace)

/-! ## Runs that open a folder -/

/-- The database over a folder after its start. -/
def startedOver (folder : Folder) (workspace : Workspace) : Database Workspace :=
  (({ storage := workspace } : Database Workspace).start folder.gateway).database

/-- A folder that loads starts a database with its tables. -/
theorem start_of_load
    {folder : Folder}
    {workspace : Workspace}
    {catalog : Catalog}
    (loads : (folder.load workspace).result = .ok catalog) :
    (({ storage := workspace } : Database Workspace).start folder.gateway).result = .ok () ∧
      startedOver folder workspace = { storage := workspace, catalog } := by
  simp [startedOver, Database.start, Database.isStarted, loads]

/-- How a run ends if what the arguments ask for comes to this. -/
def Ending.ofResult : Except Fault Ending → Ending
  | .ok ending => ending
  | .error fault => .escaped fault

/-- A run on a folder that loads ends as what the arguments ask for does. The database is stopped,
which changes neither the console nor the workspace. -/
theorem runWith_of_act
    {settings : Settings}
    {arguments : Arguments}
    (noScript : arguments.file = none)
    {input : String}
    {folder : Folder}
    (opened : folderOf (override settings arguments) = folder)
    {workspace : Workspace}
    {catalog : Catalog}
    (loads : (folder.load workspace).result = .ok catalog)
    {step : Shell.Step Workspace Ending}
    (acted : act (override settings arguments) arguments
      { database := startedOver folder workspace } input = step)
    (started : step.shell.database.isStarted = true) :
    runWith settings arguments input workspace =
      ⟨.ofResult step.result, step.shell.console, step.shell.database.storage⟩ := by
  have opens : missingScript? arguments workspace = .ok none := by rw [missingScript?, noScript]
  obtain ⟨result, _⟩ := start_of_load loads
  rw [startedOver] at acted
  subst opened
  rw [runWith, opens]
  dsimp only
  unfold operate
  dsimp only
  rw [result]
  dsimp only
  rw [acted, Database.stop, if_pos started]
  cases step.result <;> rfl

-- From here on only the tables of the started database matter.
attribute [irreducible] startedOver

/-! ## Runs of one statement -/

/-- A call of the database is all that a command line does, whatever there is to be read as typed
input: the console shows the reply, the workspace is the one after the call, and the exit code tells
whether the statement was accepted and stored. -/
def RunsOnly (environment : Environment) (texts : List String) (workspace : Workspace)
    (turn : Turn Workspace Reply) : Prop :=
  ∃ reply console, turn.result = .ok reply ∧ Shell.show? {} reply = .ok console ∧
    ∀ input, run environment texts input workspace =
      ⟨.exit (if reply.success ∧ reply.persisted then 0 else 1), console, turn.database.storage⟩

/-- The arguments of a command line with a directory and a statement. -/
def statementArguments (directory sql : String) : Arguments :=
  { directory := some (.ofString directory), command := some sql }

/-- The folder at a directory that is given, with the file names that are set. -/
def folderAt (settings : Settings) (directory : String) : Folder :=
  ⟨.ofString directory, settings.storage.schemaFile, settings.storage.suffix⟩

/-- The empty text counts as no statement. -/
theorem runWith_empty
    (settings : Settings)
    (directory input : String)
    (workspace : Workspace) :
    runWith settings (statementArguments directory "") input workspace =
      runWith settings { directory := some (.ofString directory) } input workspace := by
  have sameSettings : override settings (statementArguments directory "") =
      override settings { directory := some (.ofString directory) } :=
    rfl
  have opens : missingScript? (statementArguments directory "") workspace = .ok none := rfl
  have alsoOpens :
      missingScript? { directory := some (.ofString directory) } workspace = .ok none :=
    rfl
  have sameAct : ∀ own shell, act own (statementArguments directory "") shell input =
      act own { directory := some (.ofString directory) } shell input := by
    intro own shell
    simp [act, statementArguments, Option.filter]
  rw [runWith, runWith, opens, alsoOpens, sameSettings]
  unfold operate
  simp only [sameAct]

section
variable
  {settings : Settings}
  {directory sql : String}
  {workspace : Workspace}
  {catalog : Catalog}
  (loads : ((folderAt settings directory).load workspace).result = .ok catalog)
include loads

/-- Any other text is run as a statement. -/
theorem runWith_of_nonempty
    (nonempty : sql ≠ "")
    {step : Shell.Step Workspace Bool}
    (ran : Shell.runStatement (folderAt settings directory).gateway
      { database := startedOver (folderAt settings directory) workspace } sql = step)
    (started : step.shell.database.isStarted = true)
    (input : String) :
    runWith settings (statementArguments directory sql) input workspace =
      ⟨.ofResult (step.result.map fun good => .exit (exitCode good)), step.shell.console,
        step.shell.database.storage⟩ := by
  have given : (statementArguments directory sql).command.filter (· ≠ "") = some sql := by
    simp [statementArguments, nonempty]
  have opened : folderOf (override settings (statementArguments directory sql)) =
      folderAt settings directory :=
    rfl
  have acted : act (override settings (statementArguments directory sql))
      (statementArguments directory sql)
      { database := startedOver (folderAt settings directory) workspace } input =
        ⟨step.result.map fun good => .exit (exitCode good), step.shell⟩ := by
    rw [act, given, opened, ← ran]
  exact runWith_of_act rfl opened loads acted started

/-- Without a statement and a script, typed input is read. -/
theorem runWith_directory
    {input : String}
    {step : Shell.Step Workspace Unit}
    (ran : Shell.run (folderAt settings directory).gateway Shell.defaultPrompt
      { database := startedOver (folderAt settings directory) workspace } input = step)
    (started : step.shell.database.isStarted = true) :
    runWith settings { directory := some (.ofString directory) } input workspace =
      ⟨.ofResult (step.result.map fun _ => .exit 0), step.shell.console,
        step.shell.database.storage⟩ := by
  have opened : folderOf (override settings { directory := some (.ofString directory) }) =
      folderAt settings directory :=
    rfl
  have acted : act (override settings { directory := some (.ofString directory) })
      { directory := some (.ofString directory) }
      { database := startedOver (folderAt settings directory) workspace } input =
        ⟨step.result.map fun _ => .exit 0, step.shell⟩ := by
    rw [act, opened, ← ran]
    rfl
  exact runWith_of_act rfl opened loads acted started

/-- Typed input that is shown is not ignored: at its end a line feed follows the prompt, but not
behind a line that asks to leave. -/
theorem not_runsOnly_of_typed
    {environment : Environment}
    {texts : List String}
    (typed : ∀ input, run environment texts input workspace =
      runWith settings { directory := some (.ofString directory) } input workspace)
    (turn : Turn Workspace Reply) :
    ¬ RunsOnly environment texts workspace turn := by
  rintro ⟨reply, console, _, _, ignored⟩
  have started : (startedOver (folderAt settings directory) workspace).isStarted = true := by
    rw [(start_of_load loads).2]
    rfl
  let shell : Shell Workspace := { database := startedOver (folderAt settings directory) workspace }
  let gateway := (folderAt settings directory).gateway
  have ended : shell.run gateway Shell.defaultPrompt "" =
      ⟨.ok (), ⟨shell.database, (shell.console.write Shell.defaultPrompt).write "\n"⟩⟩ := by
    rw [Shell.run, (by decide +kernel : Shell.inputLines "" = [])]
    rfl
  have left : shell.run gateway Shell.defaultPrompt "exit" =
      ⟨.ok (), ⟨shell.database, shell.console.write Shell.defaultPrompt⟩⟩ := by
    rw [Shell.run, (by decide +kernel : Shell.inputLines "exit" = ["exit"]),
      Shell.converse_of_leaving [] (by decide +kernel)]
    rfl
  have atEnd := (typed "").symm.trans (ignored "")
  have atExit := (typed "exit").symm.trans (ignored "exit")
  rw [runWith_directory loads ended started] at atEnd
  rw [runWith_directory loads left started] at atExit
  have same := congrArg (·.console.output) (atEnd.trans atExit.symm)
  simp [Console.write] at same

end

/-- A command line that gives a directory and a text runs with them and the settings of the
environment. -/
theorem run_eq_runWith
    {environment : Environment}
    {settings : Settings}
    (configured : Settings.load environment (.object []) = .ok settings)
    {directory sql : String}
    (accepted : read [directory, "-c", sql] = .ok (.run (statementArguments directory sql)))
    (input : String)
    (workspace : Workspace) :
    run environment [directory, "-c", sql] input workspace =
      runWith settings (statementArguments directory sql) input workspace := by
  simp only [run, prepare, accepted, configured]

/-- A command line with a directory that loads and a text executes this text as its one statement,
whatever is typed, exactly if the text is not empty and the statement has a reply. An empty text is
passed over. Only a null character in the path of a table leaves a statement without a reply, and
then its fault escapes. -/
theorem statement_runs_alone_unless_empty
    {environment : Environment}
    {settings : Settings}
    (configured : Settings.load environment (.object []) = .ok settings)
    {directory sql : String}
    (accepted : read [directory, "-c", sql] = .ok (.run (statementArguments directory sql)))
    {workspace : Workspace}
    {catalog : Catalog}
    (loads : ((folderAt settings directory).load workspace).result = .ok catalog) :
    let folder := folderAt settings directory
    let turn := (startedOver folder workspace).execute folder.gateway sql
    (RunsOnly environment [directory, "-c", sql] workspace turn ↔
      sql ≠ "" ∧ ∃ reply, turn.result = .ok reply) ∧
    (sql = "" → ∀ input, run environment [directory, "-c", sql] input workspace =
      runWith settings { directory := some (.ofString directory) } input workspace) ∧
    ∀ fault, turn.result = .error fault →
      fault = .nullCharacter ∧ ¬ folder.NullFree catalog ∧
        (sql ≠ "" → ∀ input, run environment [directory, "-c", sql] input workspace =
          ⟨.escaped fault, {}, turn.database.storage⟩) := by
  intro folder turn
  have given := fun input => run_eq_runWith configured accepted input workspace
  have durable := Engine.durable_of_load loads
  have loaded : (startedOver folder workspace).catalog = some catalog := by
    rw [(start_of_load loads).2]
  obtain ⟨after, stays, _, showable⟩ :=
    Engine.legible_execute folder.gateway loaded durable.legible sql
  have started : turn.database.isStarted = true := by
    rw [Database.isStarted, stays]
    rfl
  refine ⟨⟨?_, ?_⟩, ?_, ?_⟩
  · rintro ⟨reply, console, answered, alone⟩
    refine ⟨?_, reply, answered⟩
    rintro rfl
    have typed := fun input =>
      (given input).trans (runWith_empty settings directory input workspace)
    exact not_runsOnly_of_typed loads typed turn ⟨reply, console, answered, alone⟩
  · rintro ⟨nonempty, reply, answered⟩
    obtain ⟨console, shown⟩ := showable reply answered
    have ran := @Shell.runStatement_of_shown _ folder.gateway
      { database := startedOver folder workspace } sql reply answered console shown
    refine ⟨reply, console, answered, shown, fun input => ?_⟩
    refine (given input).trans ((runWith_of_nonempty loads nonempty ran started input).trans ?_)
    simp only [Except.map, Ending.ofResult, exitCode, Bool.and_eq_true, Console.empty_append]
    rfl
  · rintro rfl input
    exact (given input).trans (runWith_empty settings directory input workspace)
  · intro fault unanswered
    have holds : (startedOver folder workspace).Holds ⟨catalog, _⟩ := ⟨loaded, rfl⟩
    obtain ⟨isNull, hasNull⟩ := Engine.null_of_execute_eq_error holds durable unanswered
    refine ⟨isNull, hasNull, fun nonempty input => (given input).trans ?_⟩
    have ran := @Shell.runStatement_of_unanswered _ folder.gateway
      { database := startedOver folder workspace } sql fault unanswered
    exact runWith_of_nonempty loads nonempty ran started input

/-- An insertion is all that is done, whatever is typed. -/
theorem statement_runs_alone_insertion :
    let folder := folderAt {} "db"
    let workspace := (sampleDatabase "T(a:Integer)\n").storage
    let turn := (startedOver folder workspace).execute folder.gateway "INSERT INTO T (a) VALUES (1)"
    turn.result = .ok (.accepted (.inserted "T" none)) ∧
      RunsOnly [] ["db", "-c", "INSERT INTO T (a) VALUES (1)"] workspace turn := by
  intro folder workspace turn
  have configured : Settings.load [] (.object []) = .ok {} := by decide +kernel
  have accepted : read ["db", "-c", "INSERT INTO T (a) VALUES (1)"] =
      .ok (.run (statementArguments "db" "INSERT INTO T (a) VALUES (1)")) := by
    decide +kernel
  have answered : turn.result = .ok (.accepted (.inserted "T" none)) := by decide +kernel
  have started : (({ storage := workspace } : Database Workspace).start folder.gateway).result =
      .ok () := by
    decide +kernel
  obtain ⟨_, catalog, loads⟩ := (Engine.start_eq_ok_iff ..).1 started
  rw [Folder.gateway_load] at loads
  obtain ⟨alone, _⟩ := statement_runs_alone_unless_empty configured accepted loads
  exact ⟨answered, alone.2 ⟨by decide, _, answered⟩⟩

/-- The empty text is accepted and not executed. -/
theorem statement_can_be_passed_over :
    ¬ ∀ (environment : Environment) (settings : Settings) (directory sql : String)
        (workspace : Workspace) (catalog : Catalog),
      Settings.load environment (.object []) = .ok settings →
      read [directory, "-c", sql] = .ok (.run (statementArguments directory sql)) →
      ((folderAt settings directory).load workspace).result = .ok catalog →
      let folder := folderAt settings directory
      RunsOnly environment [directory, "-c", sql] workspace
        ((startedOver folder workspace).execute folder.gateway sql) := by
  intro always
  have configured : Settings.load [] (.object []) = .ok {} := by decide +kernel
  have accepted : read ["db", "-c", ""] = .ok (.run (statementArguments "db" "")) := by
    decide +kernel
  have loads : ((folderAt {} "db").load (sampleDatabase "").storage).result = .ok ⟨[]⟩ := by
    decide +kernel
  have typed := fun input =>
    (run_eq_runWith configured accepted input (sampleDatabase "").storage).trans
      (runWith_empty {} "db" input _)
  exact not_runsOnly_of_typed loads typed _ (always [] {} "db" "" _ ⟨[]⟩ configured accepted loads)

end CommandLine
end FlatTables
