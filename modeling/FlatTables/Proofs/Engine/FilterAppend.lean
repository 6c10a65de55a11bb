import FlatTables.Proofs.Engine.Noninterference
import FlatTables.Proofs.Samples

/-!
# The engine as a machine that filters and appends

Each table of a run holds, in order, the rows it started with and the rows that were inserted,
without those that a later deletion has matched. A query returns the rows that are there and meet
its condition. The storage may change from outside and fail as it likes. Only a failure that cannot
be reported spoils this: its statement has no reply and counts all the same, because the change was
made before it was to be written.
-/

namespace FlatTables
namespace Engine

open Query (Columns Statement)
open Storage (Folder Gateway Journal Workspace WriteReport)

variable {σ : Type}

/-! ## Calls -/

/-- The change a call makes to a table: that of its text unless it was rejected. A call without a
reply has made its change, and could neither write it nor report that. -/
def Change.ofCall? (table : Table) (call : String × Except Fault Reply) : Option Change :=
  match call.2 with
  | .ok reply => ofAnswer? table (call.1, reply)
  | .error _ => ofText? table call.1

/-- A change that is handed to the gateway is made whatever the gateway reports. -/
theorem Change.ofCall?_conclude
    (table : Table)
    (sql : String)
    (outcome : Option String → Outcome)
    (report : WriteReport σ) :
    ofCall? table (sql, conclude outcome report) = ofText? table sql := by
  unfold conclude
  cases report.result with
  | ok state => rfl
  | error fault =>
      dsimp only
      cases fault.reported? <;> rfl

/-- A call changes the tables as it says. -/
theorem Effect.tables_eq
    {gateway : Gateway σ}
    {before after : Store σ}
    {sql : String}
    {result : Except Fault Reply}
    (effect : Effect gateway before sql result after)
    (sound : before.catalog.Sound) :
    after.catalog.tables = before.catalog.tables.map fun table =>
      (Change.ofCall? table (sql, result)).elim table (Change.applyTo table) := by
  cases effect with
  | rejected type rejection => exact (List.map_id _).symm
  | selected parsed found names attributes =>
      refine (List.map_id'' (fun table => ?_) _).symm
      simp [Change.ofCall?, Change.ofAnswer?, Change.ofText?, parsed]
  | inserted parsed found coerced conforms storable report written =>
      rename_i name attributes literals table row
      refine List.map_congr_left fun other member => ?_
      rw [Change.ofCall?_conclude, Change.ofText?, parsed]
      by_cases called : other.isCalled name = true
      · obtain rfl := sound.eq_of_isCalled found member called
        simp [called, coerced, Except.toOption, Change.applyTo, Change.apply]
      · simp [called]
  | deleted parsed found report written =>
      rename_i name condition table count
      refine List.map_congr_left fun other member => ?_
      rw [Change.ofCall?_conclude, Change.ofText?, parsed]
      by_cases called : other.isCalled name = true
      · obtain rfl := sound.eq_of_isCalled found member called
        simp [called, Change.applyTo, Change.apply]
      · simp [called]

/-- The texts of a run of trials, each with what it came to. -/
def Database.calls (gateway : Gateway σ) (database : Database σ)
    (steps : List ((σ → σ) × String)) : List (String × Except Fault Reply) :=
  (steps.map Prod.snd).zip ((database.trials gateway steps).map (·.turn.result))

theorem Database.calls_cons
    (gateway : Gateway σ)
    (database : Database σ)
    (change : σ → σ)
    (sql : String)
    (rest : List ((σ → σ) × String)) :
    database.calls gateway ((change, sql) :: rest) =
      (sql, ((database.disturbed change).execute gateway sql).result) ::
        ((database.disturbed change).execute gateway sql).database.calls gateway rest :=
  rfl

/-- The calls that have a reply. -/
def answered (calls : List (String × Except Fault Reply)) : List (String × Reply) :=
  calls.filterMap fun (sql, result) => result.toOption.map (sql, ·)

/-- If all calls have a reply, those that make a change are the accepted ones. -/
theorem filterMap_answered
    {calls : List (String × Except Fault Reply)}
    (replied : ∀ call ∈ calls, ∃ reply, call.2 = .ok reply)
    (table : Table) :
    (answered calls).filterMap (Change.ofAnswer? table) =
      calls.filterMap (Change.ofCall? table) := by
  rw [answered, List.filterMap_filterMap]
  refine List.filterMap_congr fun (sql, result) member => ?_
  obtain ⟨reply, rfl⟩ : ∃ reply, result = .ok reply := replied (sql, result) member
  rfl

/-! ## Runs -/

section
variable
  {gateway : Gateway σ}
  {database : Database σ}
  {catalog : Catalog}
  (loaded : database.catalog = some catalog)
  (sound : catalog.Sound)
include loaded sound

/-- If all failures of writes can be reported, every text of a run has a reply. -/
theorem exists_replies_of_failsReportably
    {steps : List ((σ → σ) × String)}
    (reportable : ∀ trial ∈ database.trials gateway steps, trial.FailsReportably) :
    ∀ call ∈ database.calls gateway steps, ∃ reply, call.2 = .ok reply := by
  induction steps generalizing database catalog with
  | nil => exact List.forall_mem_nil _
  | cons step rest inductionHypothesis =>
      obtain ⟨change, sql⟩ := step
      simp only [Database.trials, List.forall_mem_cons] at reportable
      have kept : (database.disturbed change).catalog = some catalog := loaded
      obtain ⟨after, loadedAfter, soundAfter⟩ := sound_trial gateway kept sound sql
      rw [Database.calls_cons, List.forall_mem_cons]
      constructor
      · exact (answered_iff_failsReportably gateway kept sound sql).2 reportable.1
      · exact inductionHypothesis loadedAfter soundAfter reportable.2

/-- A run changes the tables as its calls say. -/
theorem tables_afterTrials (steps : List ((σ → σ) × String)) :
    ∃ after : Catalog,
      (database.afterTrials gateway steps).catalog = some after ∧ after.Sound ∧
      after.tables = catalog.tables.map fun table =>
        { table with
          rows := Change.remaining table.schema table.rows
            ((database.calls gateway steps).filterMap (Change.ofCall? table)) } := by
  induction steps generalizing database catalog with
  | nil =>
      refine ⟨catalog, loaded, sound, (List.map_id'' (fun table => ?_) _).symm⟩
      exact congrArg (fun rows => { table with rows }) (Change.remaining_nil _ _)
  | cons step rest inductionHypothesis =>
      obtain ⟨change, sql⟩ := step
      have holds : (database.disturbed change).Holds ⟨catalog, change database.storage⟩ :=
        ⟨loaded, rfl⟩
      obtain ⟨middle, held, own⟩ := step_execute gateway holds sql
      have effect := own.effect sound
      obtain ⟨after, loadedAfter, soundAfter, tables⟩ :=
        inductionHypothesis held.catalog_eq (effect.sound sound)
      refine ⟨after, loadedAfter, soundAfter, ?_⟩
      rw [tables, effect.tables_eq sound, List.map_map]
      refine List.map_congr_left fun table _ => ?_
      rw [Database.calls_cons, List.filterMap_cons, Function.comp_apply]
      cases made : Change.ofCall? table
          (sql, ((database.disturbed change).execute gateway sql).result) with
      | none => rfl
      | some own =>
          rw [Change.remaining_cons]
          rfl

end

/-- The rows of every table are, at any point of a run, those it started with and those inserted
since, in order, without the rows that a deletion after them has matched, whatever happens to the
storage meanwhile. A text counts unless it was rejected. If the failures of all writes can be
reported, every text has a reply, and the texts that count are the accepted ones. An accepted query
returns exactly the rows of the one table it names that meet its condition, in order and projected
to the columns it lists. -/
theorem trials_filter_and_append
    {gateway : Gateway σ}
    (loadsSound : gateway.LoadsSound)
    {idle : Database σ}
    (started : (idle.start gateway).result = .ok ())
    (steps : List ((σ → σ) × String)) :
    let database := (idle.start gateway).database
    let reached := database.afterTrials gateway steps
    ∃ before after : Catalog,
      database.catalog = some before ∧
      reached.catalog = some after ∧
      after.tables = before.tables.map (fun table =>
        { table with
          rows := Change.remaining table.schema table.rows
            ((database.calls gateway steps).filterMap (Change.ofCall? table)) }) ∧
      ((∀ trial ∈ database.trials gateway steps, trial.FailsReportably) →
        (∀ call ∈ database.calls gateway steps, ∃ reply, call.2 = .ok reply) ∧
        after.tables = before.tables.map (fun table =>
          { table with
            rows := Change.remaining table.schema table.rows
              ((answered (database.calls gateway steps)).filterMap
                (Change.ofAnswer? table)) })) ∧
      ∀ (sql : String) (columns : Columns) (name : String) (condition : Option Condition)
        (outcome : Outcome),
        Statement.parse sql = .ok (.select columns name condition) →
        (reached.execute gateway sql).result = .ok (.accepted outcome) →
        ∃ table : Table,
          (∀ other, other ∈ after.tables ∧ other.isCalled name = true ↔ other = table) ∧
          ∃ schema : Schema,
            schema.names = Plan.listed table.schema columns ∧
            schema.attributes =
              (Plan.listed table.schema columns).filterMap table.schema.attribute? ∧
            outcome = .selected
              { name := none
                schema
                rows := (table.rows.filter (Plan.selects condition table.schema)).map fun row =>
                  row.valuesOf table.schema (Plan.listed table.schema columns) } := by
  intro database reached
  obtain ⟨before, read, held⟩ := holds_start started
  have sound : before.Sound := loadsSound _ _ read
  obtain ⟨after, (loadedAfter : reached.catalog = some after), soundAfter, tables⟩ :=
    tables_afterTrials held.catalog_eq sound steps
  refine ⟨before, after, held.catalog_eq, loadedAfter, tables, fun reportable => ?_, ?_⟩
  · have replied := exists_replies_of_failsReportably held.catalog_eq sound reportable
    refine ⟨replied, tables.trans (List.map_congr_left fun table _ => ?_)⟩
    rw [filterMap_answered replied]
  intro sql columns name condition outcome parsed accepted
  have heldAfter : reached.Holds ⟨after, reached.storage⟩ := ⟨loadedAfter, rfl⟩
  obtain ⟨final, _, step⟩ := step_execute gateway heldAfter sql
  rw [accepted] at step
  have effect := step.effect soundAfter
  generalize resultEq : (Except.ok (.accepted outcome) : Except Fault Reply) = result at effect
  cases effect with
  | rejected type rejection => cases resultEq
  | selected ownParsed found names attributes =>
      cases resultEq
      cases parsed.symm.trans ownParsed
      refine ⟨_, fun other => ⟨?_, ?_⟩, _, names, attributes, rfl⟩
      · rintro ⟨member, called⟩
        exact soundAfter.eq_of_isCalled found member called
      · rintro rfl
        exact ⟨Catalog.mem_of_find? found, Catalog.isCalled_of_find? found⟩
  | inserted ownParsed => cases parsed.symm.trans ownParsed
  | deleted ownParsed => cases parsed.symm.trans ownParsed

/-- In a journal whose disk is full when a row is inserted, the row at the start is dropped by the
deletion that follows, and the row inserted before it remains. -/
theorem trials_filter_and_append_full_disk :
    ((sampleJournal.start Journal.gateway).database.afterTrials Journal.gateway
      (failingSteps
        [((some fullDisk, none), "INSERT INTO T (a) VALUES (2)"),
          ((none, none), "DELETE FROM t WHERE a < 2")])).catalog.map
        (·.tables.map Table.rows) = some [[[.integer 2]]] := by
  have started : (sampleJournal.start Journal.gateway).result = .ok () := by decide +kernel
  obtain ⟨before, after, loaded, ran, _, reported, _⟩ :=
    trials_filter_and_append Journal.loadsSound started (failingSteps
        [((some fullDisk, none), "INSERT INTO T (a) VALUES (2)"),
          ((none, none), "DELETE FROM t WHERE a < 2")])
  obtain ⟨_, tables⟩ :=
    reported (failsReportably_of_journal (by simp [fullDisk, Storage.WriteFault.reported?]) _)
  have loadedSample : (sampleJournal.start Journal.gateway).database.catalog =
      some ⟨[sampleTable]⟩ := by decide +kernel
  obtain rfl := Option.some.inj (loaded.symm.trans loadedSample)
  rw [ran, Option.map_some, tables]
  decide +kernel

/-- A row whose file has a null character in its name stays in its table, and its insertion is not
accepted. -/
theorem trials_can_keep_unaccepted_rows :
    ¬ ∀ (folder : Folder) (idle : Database Workspace),
      (idle.start folder.gateway).result = .ok () →
      ∀ steps : List ((Workspace → Workspace) × String),
        let database := (idle.start folder.gateway).database
        ∃ before after : Catalog,
          database.catalog = some before ∧
          (database.afterTrials folder.gateway steps).catalog = some after ∧
          after.tables = before.tables.map fun table =>
            { table with
              rows := Change.remaining table.schema table.rows
                ((answered (database.calls folder.gateway steps)).filterMap
                  (Change.ofAnswer? table)) } := by
  intro always
  obtain ⟨before, after, loaded, ran, tables⟩ :=
    always nullFolder _ start_nullFolder [(id, "INSERT INTO T (a) VALUES (1)")]
  have reached : (((sampleDatabase "T(a:Integer)\n").start
      nullFolder.gateway).database.afterTrials nullFolder.gateway
        [(id, "INSERT INTO T (a) VALUES (1)")]).catalog.map (·.tables.map Table.rows) =
          some [[[.integer 1]]] := by
    decide +kernel
  obtain rfl := Option.some.inj (loaded.symm.trans catalog_nullFolder)
  rw [ran, Option.map_some, tables] at reached
  revert reached
  decide +kernel

end Engine
end FlatTables
