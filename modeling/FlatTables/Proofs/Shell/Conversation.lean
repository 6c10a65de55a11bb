import FlatTables.Proofs.Engine.Totality
import FlatTables.Proofs.Engine.Unanswered
import FlatTables.Proofs.Samples
import FlatTables.Proofs.Shell.Replies

/-!
# Conversations

Typed input is heard up to the first line that asks to leave. The shell executes the statements on
these lines as if they were given to the database at once, and shows a prompt before each line, what
the line came to, and a last prompt. It does so unless a statement is left without a reply, and then
it ends in the same fault.
-/

namespace FlatTables
namespace Shell

open Engine (Call Database Reply nullFolder sampleDatabase sampleFolder)
open Storage (Folder Gateway Workspace)

variable {σ : Type}

/-! ## Lines of an input -/

/-- The lines of an input: each ends at a line feed, and the last one may have none. -/
inductive LinesOf : String → List String → Prop
  | none :
      LinesOf "" []
  | unended {line : String}
      (nonempty : line ≠ "")
      (within : '\n' ∉ line.toList) :
      LinesOf line [line]
  | ended {line rest : String} {lines : List String}
      (within : '\n' ∉ line.toList)
      (others : LinesOf rest lines) :
      LinesOf (line ++ "\n" ++ rest) (line :: lines)

private theorem isLineFeed_of_mem
    {line : List Char}
    (within : '\n' ∉ line) :
    ∀ c ∈ line, Text.isLineFeed c = false := by
  rintro c member
  rw [Text.isLineFeed, beq_eq_false_iff_ne]
  rintro rfl
  exact within member

theorem LinesOf.eq
    {input : String}
    {lines : List String}
    (linesOf : LinesOf input lines) :
    lines = inputLines input := by
  induction linesOf with
  | none => simp [inputLines, Text.splitLines]
  | @unended line nonempty within =>
      have characters : line.toList ≠ [] := by simpa using nonempty
      rw [inputLines, Text.splitLines_of_no_break characters (isLineFeed_of_mem within)]
      simp
  | @ended line rest lines within others inductionHypothesis =>
      have split : (line ++ "\n" ++ rest).toList = line.toList ++ '\n' :: rest.toList := by simp
      rw [inductionHypothesis, inputLines, inputLines, split,
        Text.splitLines_append_break (isLineFeed_of_mem within) rfl]
      simp

/-- A character that is no line feed goes in front of the first line, if there is one. -/
private theorem LinesOf.exists_cons
    {c : Char}
    (within : c ≠ '\n')
    {rest : String}
    {lines : List String}
    (linesOf : LinesOf rest lines) :
    ∃ more, LinesOf (String.singleton c ++ rest) more := by
  have apart : ∀ line : String, '\n' ∉ line.toList →
      '\n' ∉ (String.singleton c ++ line).toList := by
    intro line own
    simpa [Ne.symm within] using own
  cases linesOf with
  | none => exact ⟨_, .unended (by simp) (apart "" (by simp))⟩
  | unended nonempty own => exact ⟨_, .unended (by simp) (apart rest own)⟩
  | @ended line rest lines own others =>
      rw [← String.append_assoc, ← String.append_assoc]
      exact ⟨_, .ended (apart line own) others⟩

/-- Every input has lines, and they are the ones that are read. -/
theorem linesOf_inputLines (input : String) : LinesOf input (inputLines input) := by
  have exist : ∀ characters : List Char, ∃ lines, LinesOf (String.ofList characters) lines := by
    intro characters
    induction characters with
    | nil => exact ⟨[], .none⟩
    | cons c rest inductionHypothesis =>
        obtain ⟨lines, own⟩ := inductionHypothesis
        have front : String.ofList (c :: rest) = String.singleton c ++ String.ofList rest := by
          simp
        rw [front]
        by_cases feed : c = '\n'
        · subst feed
          exact ⟨_, LinesOf.ended (by simp : '\n' ∉ "".toList) own⟩
        · exact own.exists_cons feed
  obtain ⟨lines, own⟩ := exist input.toList
  rw [String.ofList_toList] at own
  exact own.eq ▸ own

/-! ## What is heard and what is shown -/

/-- A line asks to leave: without the blanks around it and in lower case it is a word for that. -/
def AsksToLeave (line : String) : Prop :=
  String.ofList ((Text.trim line).toList.map Char.toLower) ∈ leaveWords

instance : DecidablePred AsksToLeave :=
  fun _ => inferInstanceAs (Decidable (_ ∈ _))

/-- The lines before the first that asks to leave. -/
def heard (lines : List String) : List String :=
  lines.takeWhile fun line => ¬ AsksToLeave line

/-- The statements on lines: whatever is not blank, without the blanks around it. -/
def statementsOn (lines : List String) : List String :=
  (lines.map Text.trim).filter (· ≠ "")

/-- What the lines came to: a blank line shows nothing, and every other one the next reply. -/
inductive Shown : List String → List Reply → List Console → Prop
  | nil :
      Shown [] [] []
  | blank {line : String} {lines : List String} {replies : List Reply} {consoles : List Console}
      (isBlank : Text.trim line = "")
      (others : Shown lines replies consoles) :
      Shown (line :: lines) replies ({} :: consoles)
  | statement {line : String} {lines : List String} {reply : Reply} {replies : List Reply}
      {own : Console} {consoles : List Console}
      (nonblank : Text.trim line ≠ "")
      (shown : show? {} reply = .ok own)
      (others : Shown lines replies consoles) :
      Shown (line :: lines) (reply :: replies) (own :: consoles)

/-- A conversation over lines: it ends well, it has executed the statements that were heard, and it
has shown a prompt and what the line came to for every line heard, and a last prompt. A line feed
follows if the input has ended. -/
structure Faithful (gateway : Gateway σ) (prompt : String) (shell : Shell σ) (lines : List String)
    (step : Step σ Unit) : Prop where
  ended : step.result = .ok ()
  database : step.shell.database =
    (shell.database.executeMany gateway (statementsOn (heard lines))).database
  shown : ∃ replies consoles,
    (shell.database.executeMany gateway (statementsOn (heard lines))).result = .ok replies ∧
    Shown (heard lines) replies consoles ∧
    step.shell.console.output =
      shell.console.output ++ String.join (consoles.map (prompt ++ ·.output)) ++ prompt ++
        (if heard lines = lines then "\n" else "") ∧
    step.shell.console.errors = shell.console.errors ++ String.join (consoles.map (·.errors))

/-! ## One line -/

theorem heard_of_leaving
    {line : String}
    (leaves : AsksToLeave line)
    (rest : List String) :
    heard (line :: rest) = [] := by
  simp [heard, leaves]

theorem heard_of_staying
    {line : String}
    (stays : ¬ AsksToLeave line)
    (rest : List String) :
    heard (line :: rest) = line :: heard rest := by
  simp [heard, stays]

theorem statementsOn_of_blank
    {line : String}
    (isBlank : Text.trim line = "")
    (rest : List String) :
    statementsOn (line :: rest) = statementsOn rest := by
  simp [statementsOn, isBlank]

theorem statementsOn_of_nonblank
    {line : String}
    (nonblank : Text.trim line ≠ "")
    (rest : List String) :
    statementsOn (line :: rest) = Text.trim line :: statementsOn rest := by
  simp [statementsOn, nonblank]

/-- A line that asks to leave is not blank. -/
theorem AsksToLeave.nonblank
    {line : String}
    (leaves : AsksToLeave line) :
    Text.trim line ≠ "" := by
  intro isBlank
  rw [AsksToLeave, isBlank] at leaves
  revert leaves
  decide

private theorem trimChars_eq_nil_iff_trim (line : String) :
    Text.trimChars line.toList = [] ↔ Text.trim line = "" := by
  simp [Text.trim]

private theorem toList_trim (line : String) :
    (Text.trim line).toList = Text.trimChars line.toList := by
  simp [Text.trim]

section
variable
  {gateway : Gateway σ}
  {prompt : String}
  {shell : Shell σ}
  {line : String}
  (rest : List String)

theorem converse_of_leaving
    (leaves : AsksToLeave line) :
    shell.converse gateway prompt (line :: rest) = ⟨.ok (), shell.prompted prompt⟩ := by
  have nonblank : Text.trimChars line.toList ≠ [] :=
    (trimChars_eq_nil_iff_trim line).not.2 leaves.nonblank
  rw [AsksToLeave, toList_trim] at leaves
  simp only [converse, handleLine, Request.ofLine, if_neg nonblank, if_pos leaves]

theorem converse_of_blank
    (isBlank : Text.trim line = "") :
    shell.converse gateway prompt (line :: rest) =
      (shell.prompted prompt).converse gateway prompt rest := by
  have empty : Text.trimChars line.toList = [] := (trimChars_eq_nil_iff_trim line).2 isBlank
  simp only [converse, handleLine, Request.ofLine, if_pos empty]

section
variable
  (nonblank : Text.trim line ≠ "")
  (stays : ¬ AsksToLeave line)
include nonblank stays

private theorem handleLine_eq (shell : Shell σ) :
    shell.handleLine gateway line =
      ⟨(shell.runStatement gateway (Text.trim line)).result.map fun _ => true,
        (shell.runStatement gateway (Text.trim line)).shell⟩ := by
  apply handleLine_statement gateway shell ((trimChars_eq_nil_iff_trim line).not.2 nonblank)
  rwa [AsksToLeave, toList_trim] at stays

/-- What a statement came to goes behind the prompt, and the next line follows. -/
theorem converse_of_answered
    {reply : Reply}
    (answered : (shell.database.execute gateway (Text.trim line)).result = .ok reply)
    {own : Console}
    (shown : show? {} reply = .ok own) :
    shell.converse gateway prompt (line :: rest) =
      converse gateway prompt
        ⟨(shell.database.execute gateway (Text.trim line)).database,
          (shell.console.write prompt).append own⟩ rest := by
  have ran := @runStatement_of_shown σ gateway (shell.prompted prompt) _ _ answered _ shown
  rw [converse, handleLine_eq nonblank stays, ran]
  rfl

/-- A statement without a reply ends the conversation. -/
theorem converse_of_unanswered
    {fault : Fault}
    (unanswered : (shell.database.execute gateway (Text.trim line)).result = .error fault) :
    shell.converse gateway prompt (line :: rest) =
      ⟨.error fault,
        ⟨(shell.database.execute gateway (Text.trim line)).database,
          shell.console.write prompt⟩⟩ := by
  have ran := @runStatement_of_unanswered σ gateway (shell.prompted prompt) _ _ unanswered
  rw [converse, handleLine_eq nonblank stays, ran]
  rfl

end

end

/-! ## All lines -/

section
variable
  {gateway : Gateway σ}
  {prompt : String}
  {shell : Shell σ}

/-- Input without lines shows a prompt and a line feed. -/
theorem faithful_nil : Faithful gateway prompt shell [] (shell.converse gateway prompt []) where
  ended := rfl
  database := rfl
  shown := by
    refine ⟨[], [], rfl, .nil, ?_, ?_⟩ <;>
      simp [heard, converse, prompted, Console.write]

/-- Nothing is done of what stands behind a line that asks to leave. -/
theorem faithful_of_leaving
    {line : String}
    (leaves : AsksToLeave line)
    (rest : List String) :
    Faithful gateway prompt shell (line :: rest)
      (shell.converse gateway prompt (line :: rest)) := by
  have nothing := heard_of_leaving leaves rest
  rw [converse_of_leaving rest leaves]
  refine ⟨rfl, by rw [nothing]; rfl, [], [], by rw [nothing]; rfl, nothing ▸ .nil, ?_, ?_⟩ <;>
    simp [nothing, prompted, Console.write]

/-- A line goes in front of a conversation if the replies go in front of each other and the own
console of the line stands between the prompts. -/
theorem Faithful.cons
    {line : String}
    (stays : ¬ AsksToLeave line)
    {rest : List String}
    {middle : Shell σ}
    {own : Console}
    (console : middle.console = (shell.console.write prompt).append own)
    (database :
      (shell.database.executeMany gateway (statementsOn (line :: heard rest))).database =
        (middle.database.executeMany gateway (statementsOn (heard rest))).database)
    (shown : ∀ replies consoles,
      (middle.database.executeMany gateway (statementsOn (heard rest))).result = .ok replies →
      Shown (heard rest) replies consoles →
        ∃ more,
          (shell.database.executeMany gateway (statementsOn (line :: heard rest))).result =
            .ok more ∧
          Shown (line :: heard rest) more (own :: consoles))
    {step : Step σ Unit}
    (faithful : Faithful gateway prompt middle rest step) :
    Faithful gateway prompt shell (line :: rest) step := by
  obtain ⟨ended, reached, replies, consoles, answered, shownRest, output, errors⟩ := faithful
  obtain ⟨more, answeredAll, shownAll⟩ := shown replies consoles answered shownRest
  have first := heard_of_staying stays rest
  rw [← first] at database answeredAll shownAll
  refine ⟨ended, reached.trans database.symm, more, own :: consoles, answeredAll, shownAll, ?_, ?_⟩
  · rw [output, console]
    simp [first, Console.write, String.append_assoc]
  · rw [errors, console]
    simp [Console.write, String.append_assoc]

/-- On tables that are legible, lines make up a conversation, or a statement that is heard has no
reply, and both end in its fault. -/
theorem faithful_or_unanswered
    {catalog : Catalog}
    (loaded : shell.database.catalog = some catalog)
    (legible : catalog.Legible)
    (lines : List String) :
    Faithful gateway prompt shell lines (shell.converse gateway prompt lines) ∨
      ∃ fault,
        (shell.database.executeMany gateway (statementsOn (heard lines))).result =
          .error fault ∧
        (shell.converse gateway prompt lines).result = .error fault ∧
        (shell.converse gateway prompt lines).shell.database =
          (shell.database.executeMany gateway (statementsOn (heard lines))).database := by
  induction lines generalizing shell catalog with
  | nil => exact .inl faithful_nil
  | cons line rest inductionHypothesis =>
      by_cases leaves : AsksToLeave line
      · exact .inl (faithful_of_leaving leaves rest)
      rw [heard_of_staying leaves]
      by_cases isBlank : Text.trim line = ""
      · rw [converse_of_blank rest isBlank, statementsOn_of_blank isBlank]
        have onlyPrompt :
            (shell.prompted prompt).console = (shell.console.write prompt).append {} := by
          simp [prompted]
        refine (@inductionHypothesis (shell.prompted prompt) catalog loaded legible).imp_left ?_
        refine Faithful.cons leaves onlyPrompt ?_ ?_
        · rw [statementsOn_of_blank isBlank]
          rfl
        · intro replies consoles answered shown
          rw [statementsOn_of_blank isBlank]
          exact ⟨replies, answered, .blank isBlank shown⟩
      · obtain ⟨after, loadedAfter, legibleAfter, showable⟩ :=
          Engine.legible_execute gateway loaded legible (Text.trim line)
        rw [statementsOn_of_nonblank isBlank]
        cases first : (shell.database.execute gateway (Text.trim line)).result with
        | error fault =>
            obtain ⟨unanswered, reached⟩ :=
              Engine.executeMany_of_unanswered first (statementsOn (heard rest))
            rw [converse_of_unanswered rest isBlank leaves first]
            exact .inr ⟨fault, unanswered, rfl, reached.symm⟩
        | ok reply =>
            obtain ⟨own, shownFirst⟩ := showable reply first
            obtain ⟨result, database⟩ :=
              Engine.executeMany_of_answered first (statementsOn (heard rest))
            rw [converse_of_answered rest isBlank leaves first shownFirst, result, database]
            refine (@inductionHypothesis ⟨_, (shell.console.write prompt).append own⟩ after
              loadedAfter legibleAfter).imp ?_ ?_
            · refine Faithful.cons leaves rfl ?_ ?_
              · rw [statementsOn_of_nonblank isBlank, database]
              · intro replies consoles answered shown
                rw [statementsOn_of_nonblank isBlank, result, answered]
                exact ⟨reply :: replies, rfl, .statement isBlank shownFirst shown⟩
            · rintro ⟨fault, unanswered, ended⟩
              exact ⟨fault, map_eq_error_iff.2 unanswered, ended⟩

end

/-- Typed input is a conversation over its lines exactly if all statements on the lines that are
heard have replies, and otherwise it ends in the fault of the first that has none. This holds of
every database whose tables are legible, and all statements have replies if the gateway fails as
storages and operating systems do. A database over a folder, after any calls, has legible tables,
and only a null character in the path of a table leaves a statement without a reply. -/
theorem run_faithful_unless_unanswered (prompt input : String) :
    ∃ lines, LinesOf input lines ∧
      (∀ {σ : Type} (gateway : Gateway σ) (shell : Shell σ) (catalog : Catalog),
        shell.database.catalog = some catalog → catalog.Legible →
        let step := shell.run gateway prompt input
        let batch := shell.database.executeMany gateway (statementsOn (heard lines))
        (Faithful gateway prompt shell lines step ↔ ∃ replies, batch.result = .ok replies) ∧
        (∀ fault, batch.result = .error fault →
          step.result = .error fault ∧ step.shell.database = batch.database) ∧
        (gateway.FailsAsExpected → Faithful gateway prompt shell lines step)) ∧
      ∀ (folder : Folder) (idle : Database Workspace),
        (idle.start folder.gateway).result = .ok () →
        ∀ (calls : List Call) (console : Console),
          let shell : Shell Workspace :=
            ⟨(idle.start folder.gateway).database.afterCalls folder.gateway calls, console⟩
          let step := shell.run folder.gateway prompt input
          ∃ catalog, shell.database.catalog = some catalog ∧ catalog.Legible ∧
            (Faithful folder.gateway prompt shell lines step ∨
              step.result = .error .nullCharacter ∧ ¬ folder.NullFree catalog) := by
  refine ⟨inputLines input, linesOf_inputLines input, ?_, ?_⟩
  · intro σ gateway shell catalog loaded legible
    have outcome : Faithful gateway prompt shell _ (shell.run gateway prompt input) ∨ _ :=
      faithful_or_unanswered loaded legible (inputLines input)
    refine ⟨⟨?_, ?_⟩, ?_, ?_⟩
    · rintro ⟨_, _, replies, _, answered, _⟩
      exact ⟨replies, answered⟩
    · rintro ⟨replies, answered⟩
      refine outcome.resolve_right ?_
      rintro ⟨fault, unanswered, _⟩
      cases answered.symm.trans unanswered
    · intro fault unanswered
      rcases outcome with ⟨_, _, replies, _, answered, _⟩ | ⟨own, same, ended, reached⟩
      · cases answered.symm.trans unanswered
      · obtain rfl := Except.error.inj (same.symm.trans unanswered)
        exact ⟨ended, reached⟩
    · intro expected
      refine outcome.resolve_right ?_
      rintro ⟨fault, unanswered, _⟩
      obtain ⟨replies, answered, _⟩ :=
        Engine.executeMany_answers expected loaded legible.sound.conforming _
      cases answered.symm.trans unanswered
  · intro folder idle started calls console
    obtain ⟨loadedCatalog, loaded, held⟩ := Engine.holds_start started
    rw [Folder.gateway_load] at loaded
    obtain ⟨reached, holds, durable⟩ :=
      Engine.durable_afterCalls folder.gateway held (Engine.durable_of_load loaded) calls
    refine ⟨reached.catalog, holds.catalog_eq, durable.legible, ?_⟩
    refine (faithful_or_unanswered holds.catalog_eq durable.legible (inputLines input)).imp_right ?_
    rintro ⟨fault, unanswered, ended, _⟩
    obtain ⟨rfl, hasNull⟩ := Engine.null_of_executeMany_eq_error holds durable unanswered
    exact ⟨ended, hasNull⟩

/-- Two statements, a blank line and a text that is rejected are followed by a line that asks to
leave, behind which nothing is read. -/
theorem run_faithful_until_quit :
    let shell : Shell Workspace :=
      { database := ((sampleDatabase "T(a:Integer)\n").start sampleFolder.gateway).database }
    let step := shell.run sampleFolder.gateway defaultPrompt
      "\tINSERT INTO T (a) VALUES (1)\r\n \nDROP\nselect * from t; \n QUIT\nDELETE FROM T"
    Faithful sampleFolder.gateway defaultPrompt shell
        ["\tINSERT INTO T (a) VALUES (1)\r", " ", "DROP", "select * from t; ", " QUIT",
          "DELETE FROM T"] step ∧
      step.shell.console.output = "$ OK: 1 row inserted into T\n$ $ $ a\n1\n$ " := by
  intro shell step
  have started : ((sampleDatabase "T(a:Integer)\n").start sampleFolder.gateway).result =
      .ok () := by
    decide +kernel
  have ran : step.result = .ok () ∧
      step.shell.console.output = "$ OK: 1 row inserted into T\n$ $ $ a\n1\n$ " := by
    decide +kernel
  obtain ⟨lines, linesOf, _, overFolder⟩ := run_faithful_unless_unanswered defaultPrompt
    "\tINSERT INTO T (a) VALUES (1)\r\n \nDROP\nselect * from t; \n QUIT\nDELETE FROM T"
  have read : lines = ["\tINSERT INTO T (a) VALUES (1)\r", " ", "DROP", "select * from t; ",
      " QUIT", "DELETE FROM T"] :=
    linesOf.eq.trans (by decide +kernel)
  obtain ⟨catalog, _, _, outcome⟩ := overFolder sampleFolder _ started [] {}
  refine ⟨read ▸ outcome.resolve_right ?_, ran.2⟩
  rintro ⟨null, _⟩
  cases ran.1.symm.trans null

/-- A row that is to go into such a file ends the conversation. -/
theorem run_can_fault :
    ¬ ∀ (folder : Folder) (idle : Database Workspace),
      (idle.start folder.gateway).result = .ok () →
      ∀ (prompt input : String),
        let shell : Shell Workspace := { database := (idle.start folder.gateway).database }
        ∃ lines, LinesOf input lines ∧
          Faithful folder.gateway prompt shell lines (shell.run folder.gateway prompt input) := by
  intro always
  obtain ⟨lines, _, faithful⟩ :=
    always nullFolder _ Engine.start_nullFolder defaultPrompt
      "INSERT INTO T (a) VALUES (1)\nSELECT * FROM T\n"
  have ended := faithful.ended
  revert ended
  decide +kernel

end Shell
end FlatTables
