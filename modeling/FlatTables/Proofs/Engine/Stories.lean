import FlatTables.Proofs.Engine.Noninterference
import FlatTables.Proofs.Engine.Story
import FlatTables.Proofs.Engine.Unanswered
import FlatTables.Proofs.Samples

/-!
# Stories of a run

The statements of a run have successive numbers, and what is logged between them has none. Any of
their writes may fail, since the storage may change from outside before each of them. Every statement
tells one story nevertheless, unless its write fails in a way that the engine does not report.
-/

namespace FlatTables
namespace Engine

open Query (Statement)
open Storage (Folder Gateway Journal Workspace WriteFault)
open Telemetry

variable {σ : Type}

/-! ## Runs -/

/-- Every statement uses up a number. -/
theorem lastStatement_execute
    (gateway : Gateway σ)
    {database : Database σ}
    (started : database.isStarted = true)
    (sql : String) :
    (database.execute gateway sql).database.lastStatement = database.lastStatement + 1 := by
  obtain ⟨catalog, loaded⟩ := Option.isSome_iff_exists.1 started
  simp only [Database.execute, loaded, Database.answer]
  cases Statement.parse sql with
  | error rejection => rfl
  | ok statement =>
      simp only [Database.carryOut]
      cases Database.replyTo statement.type
          (Execution.ofStatement gateway ⟨catalog, database.storage⟩ statement).result <;> rfl

/-- Every statement of a run is tried on a database that the statements before it have left. What
holds at first and is kept by each of them holds there, and its number is that of the statements
before it. -/
theorem exists_trial
    {gateway : Gateway σ}
    {invariant : Database σ → Prop}
    (started : ∀ database, invariant database → database.isStarted = true)
    (kept : ∀ database change sql, invariant database →
      invariant ((database.disturbed change).execute gateway sql).database)
    {database : Database σ}
    (holds : invariant database)
    {steps : List ((σ → σ) × String)}
    {index : Nat}
    {change : σ → σ}
    {sql : String}
    (given : steps[index]? = some (change, sql)) :
    ∃ reached, invariant reached ∧
      reached.lastStatement = database.lastStatement + index ∧
      (database.trials gateway steps)[index]? =
        some ((reached.disturbed change).trial gateway sql) := by
  induction steps generalizing database index with
  | nil => cases given
  | cons step rest inductionHypothesis =>
      cases index with
      | zero =>
          cases given
          exact ⟨database, holds, rfl, rfl⟩
      | succ index =>
          obtain ⟨reached, holdsThere, number, tried⟩ :=
            inductionHypothesis (kept database step.1 step.2 holds) given
          have startedStill : (database.disturbed step.1).isStarted = true :=
            started database holds
          have next : _ = database.lastStatement + 1 :=
            lastStatement_execute gateway startedStill step.2
          exact ⟨reached, holdsThere, by omega, tried⟩

/-- A start or a stop does not use up a number. -/
theorem lastStatement_start
    (gateway : Gateway σ)
    (database : Database σ) :
    (database.start gateway).database.lastStatement = database.lastStatement ∧
      database.stop.database.lastStatement = database.lastStatement := by
  unfold Database.start Database.stop
  constructor
  · split
    · rfl
    · dsimp only
      cases (gateway.load database.storage).result <;> rfl
  · split <;> rfl

/-- What is logged outside the execution of texts belongs to no statement: while the tables are
loaded or released, and while a statement is carried out that was put together without a text. -/
theorem context_of_outside
    {gateway : Gateway σ}
    (leavesEnds : gateway.LeavesEnds)
    (database : Database σ)
    {entry : Entry}
    (outside : entry ∈ (database.start gateway).logged ∨ entry ∈ database.stop.logged ∨
      ∃ statement, entry ∈ (database.perform gateway (.built statement)).logged) :
    entry.context = none := by
  have ofEvents : ∀ events : List Event,
      ∀ signal ∈ events.map Signal.event, signal.Plain fun _ => True := by
    intro events signal member
    obtain ⟨event, _, rfl⟩ := List.mem_map.1 member
    exact .event trivial
  rcases outside with started | stopped | ⟨statement, carried⟩
  · unfold Turn.logged Database.start at started
    split at started
    · cases started
    · dsimp only at started
      have plain := ofEvents (gateway.load database.storage).events
      cases result : (gateway.load database.storage).result with
      | error fault =>
          rw [result] at started
          simp only [entries_inSpan] at started
          exact (of_mem_entries_of_plain plain started).2
      | ok catalog =>
          rw [result] at started
          simp only [entries_append, entries_inSpan, List.mem_append] at started
          rcases started with loading | loaded
          · exact (of_mem_entries_of_plain plain loading).2
          · obtain rfl := List.mem_singleton.1 loaded
            rfl
  · unfold Turn.logged Database.stop at stopped
    split at stopped
    · obtain rfl := List.mem_singleton.1 stopped
      rfl
    · cases stopped
  · unfold Turn.logged Database.perform at carried
    dsimp only at carried
    cases loaded : database.catalog with
    | none =>
        rw [loaded] at carried
        cases carried
    | some catalog =>
        rw [loaded] at carried
        exact (of_mem_entries_of_plain
          (Execution.plain_ofStatement leavesEnds ⟨catalog, database.storage⟩ statement) carried).2

/-- In a run on sound tables, every statement has the next number and its own entries and spans, and
it is concluded exactly if its write has not failed or the engine can report the failure. -/
theorem story_of_trial
    {gateway : Gateway σ}
    (leavesEnds : gateway.LeavesEnds)
    {database : Database σ}
    {catalog : Catalog}
    (loaded : database.catalog = some catalog)
    (sound : catalog.Sound)
    {steps : List ((σ → σ) × String)}
    {index : Nat}
    {change : σ → σ}
    {sql : String}
    (given : steps[index]? = some (change, sql)) :
    ∃ trial, (database.trials gateway steps)[index]? = some trial ∧
      trial.turn.BelongsTo (database.lastStatement + index + 1) sql ∧
      (trial.turn.Concludes ↔ trial.FailsReportably) := by
  have holds : ∃ catalog, database.catalog = some catalog ∧ catalog.Sound :=
    ⟨catalog, loaded, sound⟩
  have started : ∀ own : Database σ,
      (∃ catalog, own.catalog = some catalog ∧ catalog.Sound) → own.isStarted = true := by
    rintro own ⟨catalog, loaded, _⟩
    rw [Database.isStarted, loaded, Option.isSome_some]
  have kept : ∀ (own : Database σ) change sql,
      (∃ catalog, own.catalog = some catalog ∧ catalog.Sound) →
        ∃ catalog, ((own.disturbed change).execute gateway sql).database.catalog = some catalog ∧
          catalog.Sound := by
    rintro own change sql ⟨catalog, loaded, sound⟩
    have loadedStill : (own.disturbed change).catalog = some catalog := loaded
    exact sound_trial gateway loadedStill sound sql
  obtain ⟨reached, holdsThere, number, tried⟩ := exists_trial started kept holds given
  have startedThere : (reached.disturbed change).isStarted = true := started reached holdsThere
  obtain ⟨own, loadedThere, soundThere⟩ := holdsThere
  have loadedStill : (reached.disturbed change).catalog = some own := loadedThere
  refine ⟨_, tried, ?_, ?_⟩
  · rw [← number]
    exact belongsTo_execute leavesEnds startedThere sql
  · exact (concludes_execute_iff leavesEnds startedThere sql).trans
      (answered_iff_failsReportably gateway loadedStill soundThere sql)

/-- In a run over a folder, every statement has the next number and its own entries and spans, and
only a null character in the path of a table leaves it without a conclusion. -/
theorem story_of_trial_over_folder
    {folder : Folder}
    {database : Database Workspace}
    {before : Store Workspace}
    (held : database.Holds before)
    (durable : Durable before.catalog)
    {steps : List ((Workspace → Workspace) × String)}
    {index : Nat}
    {change : Workspace → Workspace}
    {sql : String}
    (given : steps[index]? = some (change, sql)) :
    ∃ trial, (database.trials folder.gateway steps)[index]? = some trial ∧
      trial.turn.BelongsTo (database.lastStatement + index + 1) sql ∧
      (trial.turn.Concludes ∨
        trial.turn.result = .error .nullCharacter ∧ ¬ folder.NullFree before.catalog) := by
  let invariant : Database Workspace → Prop := fun own =>
    ∃ store, own.Holds store ∧ Durable store.catalog ∧
      (folder.NullFree store.catalog ↔ folder.NullFree before.catalog)
  have started : ∀ own, invariant own → own.isStarted = true := by
    rintro own ⟨store, ownHeld, _⟩
    rw [Database.isStarted, ownHeld.catalog_eq, Option.isSome_some]
  have kept : ∀ own change sql, invariant own →
      invariant ((own.disturbed change).execute folder.gateway sql).database := by
    rintro own change sql ⟨store, ownHeld, ownDurable, sameNulls⟩
    have heldStill : (own.disturbed change).Holds ⟨store.catalog, change own.storage⟩ :=
      ⟨ownHeld.catalog_eq, rfl⟩
    obtain ⟨after, heldAfter, carried⟩ :=
      carried_perform folder.gateway heldStill ownDurable.sound (.text sql)
    exact ⟨after, heldAfter, carried.durable ownDurable, carried.nullFree_iff.trans sameNulls⟩
  obtain ⟨reached, holdsThere, number, tried⟩ :=
    exists_trial started kept ⟨before, held, durable, Iff.rfl⟩ given
  have startedThere : (reached.disturbed change).isStarted = true := started reached holdsThere
  obtain ⟨store, heldThere, durableThere, sameNulls⟩ := holdsThere
  refine ⟨_, tried, ?_, ?_⟩
  · rw [← number]
    exact belongsTo_execute folder.leavesEnds startedThere sql
  · cases result : ((reached.disturbed change).execute folder.gateway sql).result with
    | ok reply => exact .inl (concludes_of_answered folder.leavesEnds startedThere sql result)
    | error fault =>
        have heldStill : (reached.disturbed change).Holds ⟨store.catalog, change reached.storage⟩ :=
          ⟨heldThere.catalog_eq, rfl⟩
        obtain ⟨rfl, hasNull⟩ := null_of_execute_eq_error heldStill durableThere result
        exact .inr ⟨result, mt sameNulls.2 hasNull⟩

/-- Take any place in a run of statements over a gateway that leaves the ends of statements to the
engine, and any text there. The storage may change from outside before every text, so any of the writes
may fail. The statement has the next number and its own entries and spans, and it is concluded exactly
if its write has not failed or the engine can report the failure. Over a folder, only a null character
in the path of a table leaves it without a conclusion. What is logged outside the execution of texts
has neither number nor text, and starts and stops do not use up numbers. -/
theorem one_story_unless_unreported
    (index : Nat)
    (sql : String) :
    (∀ folder : Folder, folder.gateway.LeavesEnds) ∧ Journal.gateway.LeavesEnds ∧
    (∀ {σ : Type} (gateway : Gateway σ), gateway.LeavesEnds →
      ∀ (database : Database σ) (catalog : Catalog),
        database.catalog = some catalog → catalog.Sound →
        ∀ (steps : List ((σ → σ) × String)) (change : σ → σ),
          steps[index]? = some (change, sql) →
          ∃ trial, (database.trials gateway steps)[index]? = some trial ∧
            trial.turn.BelongsTo (database.lastStatement + index + 1) sql ∧
            (trial.turn.Concludes ↔ trial.FailsReportably)) ∧
    (∀ (folder : Folder) (idle : Database Workspace),
      (idle.start folder.gateway).result = .ok () →
      ∃ catalog, (idle.start folder.gateway).database.catalog = some catalog ∧
        ∀ (steps : List ((Workspace → Workspace) × String)) (change : Workspace → Workspace),
          steps[index]? = some (change, sql) →
          ∃ trial, ((idle.start folder.gateway).database.trials folder.gateway steps)[index]? =
              some trial ∧
            trial.turn.BelongsTo (idle.lastStatement + index + 1) sql ∧
            (trial.turn.Concludes ∨
              trial.turn.result = .error .nullCharacter ∧ ¬ folder.NullFree catalog)) ∧
    ∀ {σ : Type} (gateway : Gateway σ), gateway.LeavesEnds → ∀ database : Database σ,
      (database.start gateway).database.lastStatement = database.lastStatement ∧
      database.stop.database.lastStatement = database.lastStatement ∧
      ∀ entry, entry ∈ (database.start gateway).logged ∨ entry ∈ database.stop.logged ∨
          (∃ statement, entry ∈ (database.perform gateway (.built statement)).logged) →
        entry.fields.lookup "statement_id" = none ∧ entry.fields.lookup "sql" = none := by
  refine ⟨Folder.leavesEnds, Journal.leavesEnds, ?_, ?_, ?_⟩
  · intro σ gateway leavesEnds database catalog loaded sound steps change given
    exact story_of_trial leavesEnds loaded sound given
  · intro folder idle started
    obtain ⟨catalog, loaded, held⟩ := holds_start started
    rw [Folder.gateway_load] at loaded
    refine ⟨catalog, held.catalog_eq, fun steps change given => ?_⟩
    rw [← (lastStatement_start folder.gateway idle).1]
    exact story_of_trial_over_folder held (durable_of_load loaded) given
  · intro σ gateway leavesEnds database
    obtain ⟨started, stopped⟩ := lastStatement_start gateway database
    refine ⟨started, stopped, fun entry outside => ?_⟩
    rw [Entry.lookup_statement_id, Entry.lookup_sql,
      context_of_outside leavesEnds database outside]
    exact ⟨rfl, rfl⟩

/-- Behind an insertion and after the folder has been removed, a deletion that is not written still
tells one story, as the second statement. -/
theorem one_story_despite_failed_write :
    let database := ((sampleDatabase "T(a:Integer)\n").start sampleFolder.gateway).database
    let steps : List ((Workspace → Workspace) × String) :=
      [(id, "INSERT INTO T (a) VALUES (1)"), (fun _ => {}, " DELETE FROM T\n"), (id, "DROP T")]
    ∃ trial reply, (database.trials sampleFolder.gateway steps)[1]? = some trial ∧
      trial.turn.result = .ok reply ∧ reply.persisted = false ∧
      trial.turn.BelongsTo 2 " DELETE FROM T\n" ∧ trial.turn.Concludes := by
  intro database steps
  have started : ((sampleDatabase "T(a:Integer)\n").start sampleFolder.gateway).result =
      .ok () := by
    decide +kernel
  have answered : ((database.trials sampleFolder.gateway steps)[1]?.bind fun trial =>
      trial.turn.result.toOption.map Reply.persisted) = some false := by
    decide +kernel
  obtain ⟨_, _, _, overFolder, _⟩ := one_story_unless_unreported 1 " DELETE FROM T\n"
  obtain ⟨catalog, _, story⟩ := overFolder sampleFolder _ started
  obtain ⟨trial, tried, belongs, concludes⟩ := story steps _ rfl
  have outcome : trial.turn.result.toOption.map Reply.persisted = some false := by
    have triedThere : (database.trials sampleFolder.gateway steps)[1]? = some trial := tried
    rw [triedThere] at answered
    exact answered
  cases result : trial.turn.result with
  | error fault =>
      rw [result] at outcome
      cases outcome
  | ok reply =>
      rw [result] at outcome
      refine ⟨trial, reply, tried, result, Option.some.inj outcome, belongs, ?_⟩
      apply concludes.resolve_right
      rintro ⟨null, _⟩
      cases result.symm.trans null

/-- A row that is to go into a file with a null character in its name leaves its statement without an
end. -/
theorem story_can_break_off :
    ¬ ∀ (folder : Folder) (idle : Database Workspace),
      (idle.start folder.gateway).result = .ok () →
      ∀ (steps : List ((Workspace → Workspace) × String)) (index : Nat)
        (change : Workspace → Workspace) (sql : String),
        steps[index]? = some (change, sql) →
        ∃ trial, ((idle.start folder.gateway).database.trials folder.gateway steps)[index]? =
            some trial ∧
          trial.turn.BelongsTo (idle.lastStatement + index + 1) sql ∧ trial.turn.Concludes := by
  intro always
  let folder : Folder := { sampleFolder with suffix := ".\x00" }
  let reached : Database Workspace :=
    ((sampleDatabase "T(a:Integer)\n").start folder.gateway).database
  have started : ((sampleDatabase "T(a:Integer)\n").start folder.gateway).result = .ok () := by
    decide +kernel
  obtain ⟨trial, tried, _, concludes⟩ :=
    always folder _ started [(id, "INSERT INTO T (a) VALUES (1)")] 0 id _ rfl
  have only : some ((reached.disturbed id).trial folder.gateway "INSERT INTO T (a) VALUES (1)") =
      some trial := tried
  obtain rfl := Option.some.inj only
  have startedThere : (reached.disturbed id).isStarted = true := by decide +kernel
  have unanswered : ((reached.disturbed id).execute folder.gateway
      "INSERT INTO T (a) VALUES (1)").result = .error .nullCharacter := by
    decide +kernel
  clear_value reached folder
  exact not_concludes_of_unanswered folder.leavesEnds startedThere _ unanswered concludes

end Engine
end FlatTables
