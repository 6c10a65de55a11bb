import FlatTables.Proofs.Engine.Frame
import FlatTables.Proofs.Samples
import FlatTables.Proofs.Shell.Conversation
import FlatTables.Proofs.Text.LineBreaks

/-!
# Scripts

A script is executed to its end, whatever its statements come to. The shell executes the statements
on its lines as if they were given to the database at once, shows what each of them came to, and
answers that all is well exactly if every one of them was accepted and stored. It does so unless a
statement is left without a reply, and then it ends in the same fault.
-/

namespace FlatTables
namespace Shell

open Engine (Call Database Reply Store nullFolder sampleDatabase sampleFolder targetOf?)
open Storage (Folder Gateway Path Workspace)

variable {σ : Type}

/-! ## Statements of a script -/

/-- The statements on the lines of a script: whatever is neither blank nor starts with two dashes,
without the blanks around it. -/
def statementsOfScript (lines : List String) : List String :=
  (lines.map Text.trim).filter fun text => text ≠ "" ∧ ¬ ['-', '-'] <+: text.toList

/-- These are the statements that a script runs. -/
theorem filterMap_scriptStatement? (lines : List String) :
    lines.filterMap scriptStatement? = statementsOfScript lines := by
  have statement : ∀ line, scriptStatement? line =
      if Text.trim line ≠ "" ∧ ¬ ['-', '-'] <+: (Text.trim line).toList
      then some (Text.trim line) else none := by
    intro line
    simp only [scriptStatement?, Text.trim, String.toList_ofList, List.isPrefixOf_iff_prefix,
      ne_eq, String.ofList_eq_empty_iff, ← not_or, ite_not]
  induction lines with
  | nil => rfl
  | cons line rest inductionHypothesis =>
      rw [List.filterMap_cons, statement, inductionHypothesis, statementsOfScript,
        statementsOfScript, List.map_cons]
      by_cases executed : Text.trim line ≠ "" ∧ ¬ ['-', '-'] <+: (Text.trim line).toList
      · rw [if_pos executed, List.filter_cons_of_pos (by simpa using executed)]
      · rw [if_neg executed, List.filter_cons_of_neg (by simpa using executed)]

/-- A script that is valid text runs the statements on its lines. -/
theorem runScript_toUTF8
    (gateway : Gateway σ)
    (shell : Shell σ)
    (script : String) :
    shell.runScript gateway script.toUTF8 =
      shell.runStatements gateway (statementsOfScript (Text.lines script)) := by
  simp only [runScript, Text.decodeStream_toUTF8, Text.Stream.lines, filterMap_scriptStatement?]
  cases (shell.runStatements gateway (statementsOfScript (Text.lines script))).result <;> rfl

/-! ## One statement after the other -/

/-- Statements have been run to the end: the database is the one after all of them, what each came
to is shown behind what stood on the console, and the answer tells whether every one of them was
accepted and stored. -/
structure RunsAll (gateway : Gateway σ) (shell : Shell σ) (sqls : List String)
    (step : Step σ Bool) : Prop where
  database : step.shell.database = (shell.database.executeMany gateway sqls).database
  replies : ∃ replies good,
    (shell.database.executeMany gateway sqls).result = .ok replies ∧
    replies.length = sqls.length ∧
    (∃ consoles, List.Forall₂ (fun reply own => show? {} reply = .ok own) replies consoles ∧
      step.shell.console = consoles.foldl Console.append shell.console) ∧
    step.result = .ok good ∧
    (good = true ↔ ∀ reply ∈ replies, reply.success = true ∧ reply.persisted = true)

section
variable
  {gateway : Gateway σ}
  {shell : Shell σ}

/-- A script without statements leaves the shell as it is, and all is well. -/
theorem runsAll_nil : RunsAll gateway shell [] (shell.runStatements gateway []) where
  database := rfl
  replies := ⟨[], true, rfl, rfl, ⟨[], .nil, rfl⟩, rfl, by simp⟩

section
variable
  {sql : String}
  {reply : Reply}
  (answered : (shell.database.execute gateway sql).result = .ok reply)
  {own : Console}
  (shown : show? {} reply = .ok own)
  (rest : List String)
include answered shown

/-- A statement with a reply stands in front of the others, and takes part in the answer. -/
theorem runStatements_of_answered :
    shell.runStatements gateway (sql :: rest) =
      let others := runStatements gateway
        ⟨(shell.database.execute gateway sql).database, shell.console.append own⟩ rest
      ⟨others.result.map (reply.success && reply.persisted && ·), others.shell⟩ := by
  rw [runStatements, runStatement_of_shown answered shown]

/-- If the others are run to the end after it, all are. -/
theorem RunsAll.cons
    {step : Step σ Bool}
    (others : RunsAll gateway
      ⟨(shell.database.execute gateway sql).database, shell.console.append own⟩ rest step) :
    RunsAll gateway shell (sql :: rest)
      ⟨step.result.map (reply.success && reply.persisted && ·), step.shell⟩ := by
  obtain ⟨result, database⟩ := Engine.executeMany_of_answered answered rest
  obtain ⟨reached, replies, good, answeredRest, lengths, ⟨consoles, shownRest, console⟩, ended,
    allWell⟩ := others
  refine ⟨reached.trans database.symm, reply :: replies, reply.success && reply.persisted && good,
    ?_, ?_, ⟨own :: consoles, .cons shown shownRest, console⟩, ?_, ?_⟩
  · rw [result, answeredRest]
    rfl
  · rw [List.length_cons, lengths, List.length_cons]
  · rw [ended]
    rfl
  · rw [Bool.and_eq_true, Bool.and_eq_true, allWell, List.forall_mem_cons]

end

/-- On tables that are legible, statements are run to the end, or one of them has no reply, and the
run ends in its fault. -/
theorem runsAll_or_unanswered
    {catalog : Catalog}
    (loaded : shell.database.catalog = some catalog)
    (legible : catalog.Legible)
    (sqls : List String) :
    RunsAll gateway shell sqls (shell.runStatements gateway sqls) ∨
      ∃ fault,
        (shell.database.executeMany gateway sqls).result = .error fault ∧
        (shell.runStatements gateway sqls).result = .error fault ∧
        (shell.runStatements gateway sqls).shell.database =
          (shell.database.executeMany gateway sqls).database := by
  induction sqls generalizing shell catalog with
  | nil => exact .inl runsAll_nil
  | cons sql rest inductionHypothesis =>
      obtain ⟨after, loadedAfter, legibleAfter, showable⟩ :=
        Engine.legible_execute gateway loaded legible sql
      cases first : (shell.database.execute gateway sql).result with
      | error fault =>
          obtain ⟨unanswered, reached⟩ := Engine.executeMany_of_unanswered first rest
          refine .inr ⟨fault, unanswered, ?_⟩
          rw [runStatements, runStatement_of_unanswered first]
          exact ⟨rfl, reached.symm⟩
      | ok reply =>
          obtain ⟨own, shown⟩ := showable reply first
          obtain ⟨result, database⟩ := Engine.executeMany_of_answered first rest
          rw [runStatements_of_answered first shown, result, database]
          refine (@inductionHypothesis ⟨_, shell.console.append own⟩ after loadedAfter
            legibleAfter).imp (RunsAll.cons first shown rest) ?_
          rintro ⟨fault, unanswered, ended, reached⟩
          exact ⟨fault, map_eq_error_iff.2 unanswered, map_eq_error_iff.2 ended, reached⟩

/-- They are run to the end exactly if all of them have replies. -/
theorem runsAll_iff_answered
    {catalog : Catalog}
    (loaded : shell.database.catalog = some catalog)
    (legible : catalog.Legible)
    (sqls : List String) :
    RunsAll gateway shell sqls (shell.runStatements gateway sqls) ↔
      ∃ replies, (shell.database.executeMany gateway sqls).result = .ok replies := by
  constructor
  · rintro ⟨_, replies, _, answered, _⟩
    exact ⟨replies, answered⟩
  · rintro ⟨replies, answered⟩
    apply (runsAll_or_unanswered loaded legible sqls).resolve_right
    rintro ⟨fault, unanswered, _⟩
    cases answered.symm.trans unanswered

/-- If one has none, the run ends in its fault, on the database that is left there. -/
theorem runStatements_of_unanswered
    {catalog : Catalog}
    (loaded : shell.database.catalog = some catalog)
    (legible : catalog.Legible)
    {sqls : List String}
    {fault : Fault}
    (unanswered : (shell.database.executeMany gateway sqls).result = .error fault) :
    (shell.runStatements gateway sqls).result = .error fault ∧
      (shell.runStatements gateway sqls).shell.database =
        (shell.database.executeMany gateway sqls).database := by
  rcases runsAll_or_unanswered loaded legible sqls with
    ⟨_, replies, _, answered, _⟩ | ⟨own, same, ended, reached⟩
  · cases answered.symm.trans unanswered
  · obtain rfl := Except.error.inj (same.symm.trans unanswered)
    exact ⟨ended, reached⟩

end

/-! ## Whole scripts -/

/-- The file of a script is not the data file of a table that one of its statements names. -/
def StandsApart (folder : Folder) (catalog : Catalog) (workspace : Workspace)
    (sqls : List String) (path : Path) : Prop :=
  ∀ name ∈ catalog.names, (∃ sql ∈ sqls, targetOf? sql = some (Text.fold name)) →
    workspace.Apart (folder.tablePath name) path

/-- A script that stands apart reads the same before each of its statements and after all of them.
-/
theorem StandsApart.read_afterCalls
    {folder : Folder}
    {database : Database Workspace}
    {before : Store Workspace}
    (holds : database.Holds before)
    (sound : before.catalog.Sound)
    {sqls : List String}
    {path : Path}
    (apart : StandsApart folder before.catalog before.storage sqls path)
    {script : ByteArray}
    (reads : before.storage.read path = .ok script)
    {executed : List String}
    (first : executed <+: sqls) :
    (database.afterCalls folder.gateway (executed.map .text)).storage.read path = .ok script := by
  apply Engine.hasContent_afterCalls holds sound _ (show before.storage.HasContent path (some script)
    from reads)
  rintro name member ⟨call, inCalls, target⟩
  obtain ⟨sql, inExecuted, rfl⟩ := List.mem_map.1 inCalls
  exact apart name member ⟨sql, first.subset inExecuted, target⟩

/-- A script in valid text is run to its end exactly if all statements on its lines have replies,
and otherwise it ends in the fault of the first that has none. This holds of every database whose
tables are legible, and all statements have replies if the gateway fails as storages and operating
systems do. A database over a folder, after any calls, has legible tables, and only a null character
in the path of a table leaves a statement without a reply. There the script may be given by its path,
and it reads the same all along if it stands apart from the data files. -/
theorem script_runs_all_unless_unanswered (script : String) :
    ∃ lines, Text.MadeOf Text.isNewline script.toList (lines.map String.toList) ∧
      (∀ {σ : Type} (gateway : Gateway σ) (shell : Shell σ) (catalog : Catalog),
        shell.database.catalog = some catalog → catalog.Legible →
        let step := shell.runScript gateway script.toUTF8
        let batch := shell.database.executeMany gateway (statementsOfScript lines)
        (RunsAll gateway shell (statementsOfScript lines) step ↔
          ∃ replies, batch.result = .ok replies) ∧
        (∀ fault, batch.result = .error fault →
          step.result = .error fault ∧ step.shell.database = batch.database) ∧
        (gateway.FailsAsExpected → RunsAll gateway shell (statementsOfScript lines) step)) ∧
      ∀ (folder : Folder) (idle : Database Workspace),
        (idle.start folder.gateway).result = .ok () →
        ∀ (calls : List Call) (console : Console),
          let shell : Shell Workspace :=
            ⟨(idle.start folder.gateway).database.afterCalls folder.gateway calls, console⟩
          let step := shell.runScript folder.gateway script.toUTF8
          ∃ catalog, shell.database.catalog = some catalog ∧ catalog.Legible ∧
            (RunsAll folder.gateway shell (statementsOfScript lines) step ∨
              step.result = .error .nullCharacter ∧ ¬ folder.NullFree catalog) ∧
            ∀ path, shell.database.storage.read path = .ok script.toUTF8 →
              StandsApart folder catalog shell.database.storage (statementsOfScript lines) path →
              shell.runFile folder.gateway path = step ∧
              ∀ executed, executed <+: statementsOfScript lines →
                (shell.database.afterCalls folder.gateway (executed.map .text)).storage.read path =
                  .ok script.toUTF8 := by
  refine ⟨Text.lines script, Text.madeOf_lines_iff.2 rfl, ?_, ?_⟩
  · intro σ gateway shell catalog loaded legible
    simp only [runScript_toUTF8]
    refine ⟨runsAll_iff_answered loaded legible _,
      fun fault => runStatements_of_unanswered loaded legible, fun expected => ?_⟩
    obtain ⟨replies, answered, _⟩ :=
      Engine.executeMany_answers expected loaded legible.sound.conforming _
    exact (runsAll_iff_answered loaded legible _).2 ⟨replies, answered⟩
  · intro folder idle started calls console shell
    obtain ⟨loadedCatalog, loaded, held⟩ := Engine.holds_start started
    rw [Folder.gateway_load] at loaded
    obtain ⟨reached, holds, durable⟩ :=
      Engine.durable_afterCalls folder.gateway held (Engine.durable_of_load loaded) calls
    refine ⟨reached.catalog, holds.catalog_eq, durable.legible, ?_, ?_⟩
    · rw [runScript_toUTF8]
      refine (runsAll_or_unanswered holds.catalog_eq durable.legible _).imp_right ?_
      rintro ⟨fault, unanswered, ended, _⟩
      obtain ⟨rfl, hasNull⟩ := Engine.null_of_executeMany_eq_error holds durable unanswered
      exact ⟨ended, hasNull⟩
    · intro path reads apart
      refine ⟨by rw [runFile, reads], fun executed first => ?_⟩
      rw [show shell.database.storage = reached.storage from holds.storage_eq] at reads apart
      exact apart.read_afterCalls holds durable.sound reads first

/-- A script with all kinds of line ends, and in it an insertion, a comment, a blank line, a text
that is rejected and a query. -/
def sampleScript : String :=
  "\tINSERT INTO T (a) VALUES (1)\r-- a comment\r\n \nDROP T\nselect * from t; "

/-- The database of the schema file with one integer table, with a script beside the folder. -/
def scriptedDatabase : Database Workspace :=
  let database := sampleDatabase "T(a:Integer)\n"
  { database with
    storage := database.storage.insert ["run.sql"] (.file sampleScript.toUTF8) }

/-- A shell on the started database. -/
def scriptedShell : Shell Workspace :=
  { database := (scriptedDatabase.start sampleFolder.gateway).database }

/-- The rejected text does not keep the query behind it from being run, and the query does not make
up for it. -/
theorem script_runs_all_despite_rejection :
    RunsAll sampleFolder.gateway scriptedShell
        ["INSERT INTO T (a) VALUES (1)", "DROP T", "select * from t;"]
        (scriptedShell.runFile sampleFolder.gateway (.ofString "run.sql")) ∧
      (scriptedShell.runFile sampleFolder.gateway (.ofString "run.sql")).result = .ok false := by
  have started : (scriptedDatabase.start sampleFolder.gateway).result = .ok () := by
    decide +kernel
  have reads : scriptedShell.database.storage.read (.ofString "run.sql") =
      .ok sampleScript.toUTF8 := by
    decide +kernel
  have ended : (scriptedShell.runFile sampleFolder.gateway (.ofString "run.sql")).result =
      .ok false := by
    decide +kernel
  obtain ⟨lines, madeOf, _, overFolder⟩ := script_runs_all_unless_unanswered sampleScript
  obtain rfl := Text.madeOf_lines_iff.1 madeOf
  have statements : statementsOfScript (Text.lines sampleScript) =
      ["INSERT INTO T (a) VALUES (1)", "DROP T", "select * from t;"] := by
    decide +kernel
  obtain ⟨catalog, loaded, _, outcome, byPath⟩ := overFolder sampleFolder _ started [] {}
  rw [statements] at outcome byPath
  change scriptedShell.database.catalog = some catalog at loaded
  have standsApart : StandsApart sampleFolder catalog scriptedShell.database.storage
      ["INSERT INTO T (a) VALUES (1)", "DROP T", "select * from t;"] (.ofString "run.sql") := by
    rintro name member _
    have names : scriptedShell.database.catalog.map Catalog.names = some ["T"] := by
      decide +kernel
    rw [loaded] at names
    rw [Option.some.inj names, List.mem_singleton] at member
    subst member
    rintro place inFolder beside
    have places : scriptedShell.database.storage.locate (sampleFolder.tablePath "T") =
          .ok ["db", "T.csv"] ∧
        scriptedShell.database.storage.locate (.ofString "run.sql") = .ok ["run.sql"] := by
      decide +kernel
    have same : Except.ok ["db", "T.csv"] = Except.ok ["run.sql"] :=
      (places.1.symm.trans inFolder).trans (beside.symm.trans places.2)
    simp at same
  obtain ⟨sameScript, _⟩ := byPath _ reads standsApart
  refine ⟨?_, ended⟩
  rw [← sameScript] at outcome
  apply Or.resolve_right outcome
  rintro ⟨null, _⟩
  cases ended.symm.trans null

/-- A row that is to go into a file with a null character in its name ends the script. -/
theorem script_can_fault :
    ¬ ∀ (folder : Folder) (idle : Database Workspace),
      (idle.start folder.gateway).result = .ok () →
      ∀ (script : String) (path : Path),
        let shell : Shell Workspace := { database := (idle.start folder.gateway).database }
        shell.database.storage.read path = .ok script.toUTF8 →
        RunsAll folder.gateway shell (statementsOfScript (Text.lines script))
          (shell.runFile folder.gateway path) := by
  intro always
  have started : (scriptedDatabase.start nullFolder.gateway).result = .ok () := by
    decide +kernel
  have reads : (scriptedDatabase.start nullFolder.gateway).database.storage.read
      (.ofString "run.sql") = .ok sampleScript.toUTF8 := by
    decide +kernel
  obtain ⟨_, _, good, _, _, _, ended, _⟩ :=
    always nullFolder _ started sampleScript (.ofString "run.sql") reads
  have noStatus : (runFile nullFolder.gateway
      { database := (scriptedDatabase.start nullFolder.gateway).database }
      (.ofString "run.sql")).result.toOption = none := by
    decide +kernel
  rw [ended] at noStatus
  cases noStatus

end Shell
end FlatTables
