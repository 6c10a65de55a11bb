import FlatTables.Proofs.Engine.Attempt
import FlatTables.Proofs.Samples
import Mathlib.Data.List.DropRight

/-!
# Tables and the writes that reached the storage

The rows of a table are those it was loaded with and all that was asked to be written since, whether
or not the write has failed. The storage holds those rows and only the writes that have succeeded. A
failed write sets the two apart, and the next rewriting of the table that succeeds brings them
together, because it writes all rows.
-/

namespace FlatTables

open Storage (Gateway Journal Write WriteFault WriteReport)

/-! ## Replaying writes -/

namespace Storage.Write

/-- The table that is written. -/
def table : Write → Option String
  | .append table _ | .overwrite table _ => table

/-- What a write does to the rows of the table with a name. -/
def apply (name : Option String) (rows : List Row) : Write → List Row
  | .append table row => if table = name then rows ++ [row] else rows
  | .overwrite table written => if table = name then written else rows

/-- What writes do, one after the other, to the rows of the table with a name. -/
def replay (name : Option String) (rows : List Row) (writes : List Write) : List Row :=
  writes.foldl (apply name) rows

theorem replay_append
    (name : Option String)
    (rows : List Row)
    (writes later : List Write) :
    replay name rows (writes ++ later) = replay name (replay name rows writes) later :=
  List.foldl_append

/-- A write of another table does nothing. -/
theorem apply_of_ne
    {name : Option String}
    {write : Write}
    (other : write.table ≠ name)
    (rows : List Row) :
    write.apply name rows = rows := by
  cases write <;> exact if_neg other

end Storage.Write

namespace Catalog

/-- The catalog after writes of its tables. -/
def replayed (catalog : Catalog) (writes : List Write) : Catalog where
  tables := catalog.tables.map fun table =>
    { table with rows := Write.replay table.name table.rows writes }

theorem replayed_nil (catalog : Catalog) : catalog.replayed [] = catalog :=
  congrArg Catalog.mk (List.map_id _)

theorem replayed_append
    (catalog : Catalog)
    (writes later : List Write) :
    catalog.replayed (writes ++ later) = (catalog.replayed writes).replayed later := by
  simp [replayed, Write.replay_append, Function.comp_def]

/-- In a sound catalog, other rows for a found table under its own name are a write of it. -/
theorem Sound.update_eq_replayed
    {catalog : Catalog}
    (sound : catalog.Sound)
    {name : String}
    {table : Table}
    (found : catalog.find? name = some table)
    {rows : List Row}
    {write : Write}
    (named : write.table = table.name)
    (writes : write.apply table.name table.rows = rows) :
    catalog.update (table.name.getD "") { table with rows } = catalog.replayed [write] := by
  rw [sound.update_eq_edit found fun _ => rows]
  refine congrArg Catalog.mk (List.map_congr_left fun other member => ?_)
  change _ = { other with rows := write.apply other.name other.rows }
  by_cases called : other.isCalled name = true
  · obtain rfl := sound.eq_of_isCalled found member called
    rw [if_pos called, writes]
  · rw [if_neg called, Write.apply_of_ne]
    rw [named]
    intro sameName
    apply called
    rw [sound.eq_of_fold_eq member (mem_of_find? found) (by rw [sameName])]
    exact isCalled_of_find? found

end Catalog

namespace Engine

open Query (Statement)

variable {σ : Type}

namespace Attempt

/-- The write has not failed. -/
def succeeds (attempt : Attempt σ) : Bool :=
  attempt.fault?.isNone

/-- The write has succeeded in giving a table new rows. -/
def rewrites (name : Option String) (attempt : Attempt σ) : Bool :=
  match attempt.write with
  | .append .. => false
  | .overwrite table _ => table = name && attempt.succeeds

/-- No write of a table has failed since it was last rewritten, or at all if it never was. -/
def CaughtUp (name : Option String) (attempts : List (Attempt σ)) : Prop :=
  ∀ attempt ∈ attempts.rtakeWhile (!·.rewrites name),
    attempt.write.table = name → attempt.succeeds = true

/-- The writes among attempts that have succeeded. -/
def succeeded (attempts : List (Attempt σ)) : List Write :=
  (attempts.filter succeeds).map write

theorem succeeded_append
    (attempts later : List (Attempt σ)) :
    succeeded (attempts ++ later) = succeeded attempts ++ succeeded later := by
  simp [succeeded]

theorem succeeded_singleton (attempt : Attempt σ) :
    succeeded [attempt] = if attempt.succeeds then [attempt.write] else [] := by
  cases own : attempt.succeeds <;> simp [succeeded, own]

/-- All rows of a table that were written without a failure have rewritten it. -/
theorem rewrites_of_result
    {name : Option String}
    {rows : List Row}
    {attempt : Attempt σ}
    {after : σ}
    (own : attempt.write = .overwrite name rows)
    (made : attempt.report.result = .ok after) :
    attempt.rewrites name = true := by
  simp [rewrites, succeeds, fault?, own, made]

/-- A rewriting has succeeded, and the rows after it do not depend on those before. -/
theorem of_rewrites
    {name : Option String}
    {attempt : Attempt σ}
    (rewritten : attempt.rewrites name = true) :
    attempt.succeeds = true ∧
      ∀ rows others, attempt.write.apply name rows = attempt.write.apply name others := by
  unfold rewrites at rewritten
  cases own : attempt.write with
  | append table row => simp [own] at rewritten
  | overwrite table written =>
      simp only [own, Bool.and_eq_true, decide_eq_true_eq] at rewritten
      exact ⟨rewritten.2, fun _ _ => by simp [Write.apply, rewritten.1]⟩

/-- A table has caught up as soon as it is rewritten. -/
theorem caughtUp_of_rewrites
    {name : Option String}
    {attempt : Attempt σ}
    (rewrites : attempt.rewrites name = true)
    (earlier : List (Attempt σ)) :
    CaughtUp name (earlier ++ [attempt]) := by
  unfold CaughtUp
  rw [List.rtakeWhile_concat_neg _ _ _ (by simp [rewrites])]
  simp

/-- A table that has caught up and was not rewritten just now had caught up before, and the last
write, if it was one of the table, has succeeded. -/
theorem CaughtUp.of_concat
    {name : Option String}
    {attempt : Attempt σ}
    {earlier : List (Attempt σ)}
    (caughtUp : CaughtUp name (earlier ++ [attempt]))
    (kept : attempt.rewrites name = false) :
    CaughtUp name earlier ∧ (attempt.write.table = name → attempt.succeeds = true) := by
  unfold CaughtUp at caughtUp
  rw [List.rtakeWhile_concat_pos _ _ _ (by simp [kept])] at caughtUp
  exact ⟨fun other member => caughtUp other (List.mem_append_left _ member),
    caughtUp attempt (by simp)⟩

/-- If a table has caught up, the writes that have succeeded give it the rows that all attempted
writes give it. -/
theorem CaughtUp.replay_eq
    {name : Option String}
    {attempts : List (Attempt σ)}
    (caughtUp : CaughtUp name attempts)
    (rows : List Row) :
    Write.replay name rows (attempts.map write) = Write.replay name rows (succeeded attempts) := by
  induction attempts using List.reverseRecOn with
  | nil => rfl
  | append_singleton earlier attempt inductionHypothesis =>
      rw [List.map_append, succeeded_append, succeeded_singleton, Write.replay_append,
        Write.replay_append]
      change attempt.write.apply name _ = _
      cases rewritten : attempt.rewrites name with
      | true =>
          obtain ⟨success, forgets⟩ := of_rewrites rewritten
          rw [if_pos success]
          exact forgets _ _
      | false =>
          obtain ⟨before, own⟩ := caughtUp.of_concat rewritten
          rw [inductionHypothesis before]
          by_cases named : attempt.write.table = name
          · rw [if_pos (own named)]
            rfl
          · rw [Write.apply_of_ne named]
            split
            · exact (Write.apply_of_ne named _).symm
            · rfl

end Attempt

/-! ## Trials -/

/-- The tables after a plan are those its write makes. -/
theorem Plan.tablesAfter_eq_replayed
    {catalog : Catalog}
    (sound : catalog.Sound)
    {statement : Statement}
    {plan : Plan}
    (planned : ofStatement catalog statement = .ok plan) :
    plan.tablesAfter catalog = catalog.replayed plan.write?.toList := by
  cases statement with
  | select columns name condition =>
      obtain ⟨source, schema, _, _, _, rfl⟩ := ofSelect_eq_ok sound planned
      exact catalog.replayed_nil.symm
  | insert name attributes literals =>
      obtain ⟨table, row, found, _, _, _, rfl⟩ := ofInsert_eq_ok sound planned
      exact sound.update_eq_replayed found rfl (if_pos rfl)
  | delete name condition =>
      obtain ⟨table, found, rfl⟩ := ofDelete_eq_ok sound planned
      exact sound.update_eq_replayed found rfl (if_pos rfl)

section
variable
  (gateway : Gateway σ)
  {database : Database σ}
  {catalog : Catalog}
  (loaded : database.catalog = some catalog)
  (sound : catalog.Sound)
include loaded sound

/-- The tables after a trial are those the attempted write makes, even if it has failed. -/
theorem catalog_trial (sql : String) :
    (database.trial gateway sql).turn.database.catalog =
      some (catalog.replayed
        ((database.trial gateway sql).attempt?.map Attempt.write).toList) := by
  cases planned : Plan.ofText catalog sql with
  | error answer =>
      obtain ⟨attempted, _, held⟩ := trial_of_unplanned gateway loaded planned
      rw [attempted, held.catalog_eq]
      exact congrArg some catalog.replayed_nil.symm
  | ok plan =>
      obtain ⟨attempted, _, held⟩ := trial_of_planned gateway loaded planned
      obtain ⟨statement, _, own⟩ := Plan.ofText_eq_ok_iff.1 planned
      rw [attempted, held.catalog_eq, Plan.write_attempt?, Plan.tablesAfter_eq_replayed sound own]

end

/-- A gateway notes exactly its successful writes, in order. -/
structure Records (gateway : Gateway σ) (written : σ → List Write) : Prop where
  append : ∀ table row before after, (gateway.append table row before).result = .ok after →
    written after = written before ++ [.append table.name row]
  overwrite : ∀ table before after, (gateway.overwrite table before).result = .ok after →
    written after = written before ++ [.overwrite table.name table.rows]

/-- If an attempted write is noted in case it succeeds, it is noted exactly then. -/
theorem Attempt.written_state
    {written : σ → List Write}
    {attempt : Attempt σ}
    {before : σ}
    (noted : ∀ after, attempt.report.result = .ok after →
      written after = written before ++ [attempt.write]) :
    written (attempt.report.state before) = written before ++ succeeded [attempt] := by
  unfold WriteReport.state
  cases made : attempt.report.result with
  | ok after => simpa [succeeded, succeeds, fault?, made] using noted after made
  | error fault => simp [succeeded, succeeds, fault?, made]

/-- The write of a plan is noted exactly if it has succeeded. -/
theorem Records.written_storageAfter
    {gateway : Gateway σ}
    {written : σ → List Write}
    (records : Records gateway written)
    (plan : Plan)
    (before : σ) :
    written (storageAfter (plan.attempt? gateway before) before) =
      written before ++ Attempt.succeeded (plan.attempt? gateway before).toList := by
  cases plan with
  | select result => exact (List.append_nil _).symm
  | insert table row => exact Attempt.written_state (records.append table row before)
  | delete table count => exact Attempt.written_state (records.overwrite table before)

/-- A trial notes the attempted write exactly if it has succeeded. -/
theorem Records.written_trial
    {gateway : Gateway σ}
    {written : σ → List Write}
    (records : Records gateway written)
    (database : Database σ)
    (sql : String) :
    written (database.trial gateway sql).turn.database.storage =
      written database.storage ++
        Attempt.succeeded (database.trial gateway sql).attempt?.toList := by
  cases loaded : database.catalog with
  | none =>
      simp [Database.trial, Database.execute, Database.refuse, Database.attempt?, loaded,
        Attempt.succeeded]
  | some catalog =>
      cases planned : Plan.ofText catalog sql with
      | error answer =>
          obtain ⟨attempted, _, held⟩ := trial_of_unplanned gateway loaded planned
          rw [attempted, held.storage_eq]
          exact (List.append_nil _).symm
      | ok plan =>
          obtain ⟨attempted, _, held⟩ := trial_of_planned gateway loaded planned
          rw [attempted, held.storage_eq]
          exact records.written_storageAfter plan database.storage

/-- A deletion that is persisted has rewritten the table it names. -/
theorem rewrites_of_deleted
    {gateway : Gateway σ}
    {database : Database σ}
    {catalog : Catalog}
    (loaded : database.catalog = some catalog)
    (sound : catalog.Sound)
    {sql name : String}
    {condition : Option Condition}
    (parsed : Statement.parse sql = .ok (.delete name condition))
    {reply : Reply}
    (answered : (database.execute gateway sql).result = .ok reply)
    (persisted : reply.persisted = true) :
    ∃ table attempt, catalog.find? name = some table ∧
      (database.trial gateway sql).attempt? = some attempt ∧
      attempt.rewrites table.name = true := by
  cases planned : Plan.ofText catalog sql with
  | error answer =>
      obtain ⟨type, rejection, rfl⟩ := Plan.rejected_of_ofText sound planned
      obtain ⟨_, result, _⟩ := trial_of_unplanned gateway loaded planned
      obtain rfl := Except.ok.inj (answered.symm.trans result)
      cases persisted
  | ok plan =>
      obtain ⟨attempted, result, _⟩ := trial_of_planned gateway loaded planned
      obtain ⟨statement, ownParsed, own⟩ := Plan.ofText_eq_ok_iff.1 planned
      obtain rfl := Except.ok.inj (ownParsed.symm.trans parsed)
      obtain ⟨table, found, rfl⟩ := Plan.ofDelete_eq_ok sound own
      refine ⟨table, _, found, attempted, ?_⟩
      obtain ⟨failure, rfl, written⟩ := conclude_eq_ok (result.symm.trans answered)
      cases failure with
      | some message => cases persisted
      | none =>
          obtain ⟨state, made⟩ := written.1 rfl
          exact Attempt.rewrites_of_result rfl made

/-! ## Runs -/

namespace Database

/-- The writes that the statements of a run have attempted. -/
def attempts (gateway : Gateway σ) (database : Database σ) (steps : List ((σ → σ) × String)) :
    List (Attempt σ) :=
  (database.trials gateway steps).filterMap Trial.attempt?

theorem attempts_cons
    (gateway : Gateway σ)
    (database : Database σ)
    (change : σ → σ)
    (sql : String)
    (rest : List ((σ → σ) × String)) :
    database.attempts gateway ((change, sql) :: rest) =
      ((database.disturbed change).trial gateway sql).attempt?.toList ++
        ((database.disturbed change).trial gateway sql).turn.database.attempts gateway rest := by
  simp only [attempts, trials, List.filterMap_cons]
  cases ((database.disturbed change).trial gateway sql).attempt? <;> rfl

theorem attempts_concat
    (gateway : Gateway σ)
    (database : Database σ)
    (earlier : List ((σ → σ) × String))
    (change : σ → σ)
    (sql : String) :
    database.attempts gateway (earlier ++ [(change, sql)]) =
      database.attempts gateway earlier ++
        (((database.afterTrials gateway earlier).disturbed change).trial
          gateway sql).attempt?.toList := by
  induction earlier generalizing database with
  | nil => exact (attempts_cons gateway database change sql []).trans (List.append_nil _)
  | cons step rest inductionHypothesis =>
      rw [List.cons_append, attempts_cons, attempts_cons, inductionHypothesis, List.append_assoc]
      rfl

end Database

/-- The tables after a run are those that all attempted writes make, even if some have failed. -/
theorem catalog_afterTrials
    (gateway : Gateway σ)
    {database : Database σ}
    {catalog : Catalog}
    (loaded : database.catalog = some catalog)
    (sound : catalog.Sound)
    (steps : List ((σ → σ) × String)) :
    (database.afterTrials gateway steps).catalog =
        some (catalog.replayed ((database.attempts gateway steps).map Attempt.write)) ∧
      (catalog.replayed ((database.attempts gateway steps).map Attempt.write)).Sound := by
  induction steps generalizing database catalog with
  | nil =>
      change database.catalog = some (catalog.replayed []) ∧ (catalog.replayed []).Sound
      rw [catalog.replayed_nil]
      exact ⟨loaded, sound⟩
  | cons step rest inductionHypothesis =>
      obtain ⟨change, sql⟩ := step
      have kept : (database.disturbed change).catalog = some catalog := loaded
      obtain ⟨after, afterLoaded, afterSound⟩ := sound_trial gateway kept sound sql
      obtain rfl := Option.some.inj (afterLoaded.symm.trans (catalog_trial gateway kept sound sql))
      rw [database.attempts_cons gateway change sql rest, List.map_append, catalog.replayed_append,
        ← Option.toList_map]
      exact inductionHypothesis afterLoaded afterSound

/-- The storage after a run has noted the attempted writes that have succeeded. -/
theorem Records.written_afterTrials
    {gateway : Gateway σ}
    {written : σ → List Write}
    (records : Records gateway written)
    (database : Database σ)
    {steps : List ((σ → σ) × String)}
    (kept : ∀ step ∈ steps, ∀ storage, written (step.1 storage) = written storage) :
    written (database.afterTrials gateway steps).storage =
      written database.storage ++ Attempt.succeeded (database.attempts gateway steps) := by
  induction steps generalizing database with
  | nil => exact (List.append_nil _).symm
  | cons step rest inductionHypothesis =>
      obtain ⟨change, sql⟩ := step
      rw [List.forall_mem_cons] at kept
      have unchanged : written (database.disturbed change).storage = written database.storage :=
        kept.1 database.storage
      rw [database.attempts_cons gateway change sql rest, Attempt.succeeded_append,
        ← List.append_assoc, ← unchanged, ← records.written_trial]
      exact inductionHypothesis _ kept.2

/-- The last statement of the run deletes from the table, and the deletion is persisted. -/
def Database.DeletesLast (gateway : Gateway σ) (database : Database σ)
    (steps : List ((σ → σ) × String)) (table : Table) : Prop :=
  ∃ earlier change sql name condition reply,
    steps = earlier ++ [(change, sql)] ∧
    Statement.parse sql = .ok (.delete name condition) ∧
    table.isCalled name = true ∧
    (((database.afterTrials gateway earlier).disturbed change).execute gateway sql).result =
      .ok reply ∧
    reply.persisted = true

/-- A table from which was deleted has caught up, if the deletion is persisted. -/
theorem caughtUp_of_deletesLast
    {gateway : Gateway σ}
    {database : Database σ}
    {catalog : Catalog}
    (loaded : database.catalog = some catalog)
    (sound : catalog.Sound)
    {steps : List ((σ → σ) × String)}
    {table : Table}
    (member : table ∈ catalog.tables)
    (deletes : database.DeletesLast gateway steps table) :
    Attempt.CaughtUp table.name (database.attempts gateway steps) := by
  obtain ⟨earlier, change, sql, name, condition, reply, rfl, parsed, called, answered, persisted⟩ :=
    deletes
  obtain ⟨middleLoaded, middleSound⟩ := catalog_afterTrials gateway loaded sound earlier
  have kept : ((database.afterTrials gateway earlier).disturbed change).catalog = some _ :=
    middleLoaded
  rw [database.attempts_concat]
  obtain ⟨found, attempt, isFound, attempted, rewritten⟩ :=
    rewrites_of_deleted kept middleSound parsed answered persisted
  -- The table is found as the version of the table at the start that has been written since.
  obtain ⟨origin, originMember, rfl⟩ := List.mem_map.1 (Catalog.mem_of_find? isFound)
  have originCalled := Catalog.isCalled_of_find? isFound
  obtain rfl := sound.eq_of_fold_eq member originMember
    (((table.isCalled_iff name).1 called).trans ((origin.isCalled_iff name).1 originCalled).symm)
  rw [attempted]
  exact Attempt.caughtUp_of_rewrites rewritten _

/-- Let any writes fail while statements are executed. At every point, the rows of each table in
memory are those it was loaded with and the successful writes replayed on them, provided that no
write of the table has failed since it was last rewritten, or at all if it never was. A deletion
that is persisted always brings them together. A gateway that notes its successful writes has then
noted just those. -/
theorem rows_eq_replay_of_caughtUp
    {gateway : Gateway σ}
    (loadsSound : gateway.LoadsSound)
    {idle : Database σ}
    (started : (idle.start gateway).result = .ok ())
    (steps : List ((σ → σ) × String)) :
    ∃ before after : Catalog,
      (idle.start gateway).database.catalog = some before ∧
      ((idle.start gateway).database.afterTrials gateway steps).catalog = some after ∧
      (∀ written : σ → List Write, Records gateway written →
        (∀ step ∈ steps, ∀ storage, written (step.1 storage) = written storage) →
        written ((idle.start gateway).database.afterTrials gateway steps).storage =
          written idle.storage ++
            Attempt.succeeded ((idle.start gateway).database.attempts gateway steps)) ∧
      List.Forall₂
        (fun table now => now.name = table.name ∧ now.schema = table.schema ∧
          (Attempt.CaughtUp table.name ((idle.start gateway).database.attempts gateway steps) ∨
              (idle.start gateway).database.DeletesLast gateway steps table →
            now.rows = Write.replay table.name table.rows
              (Attempt.succeeded ((idle.start gateway).database.attempts gateway steps))))
        before.tables after.tables := by
  obtain ⟨before, load, held⟩ := holds_start started
  have sound : before.Sound := loadsSound _ _ load
  obtain ⟨afterLoaded, _⟩ := catalog_afterTrials gateway held.catalog_eq sound steps
  refine ⟨before, _, held.catalog_eq, afterLoaded, fun written records kept => ?_, ?_⟩
  · rw [records.written_afterTrials (idle.start gateway).database kept, held.storage_eq]
  · rw [Catalog.replayed, List.forall₂_map_right_iff, List.forall₂_same]
    intro table member
    refine ⟨rfl, rfl, fun reached => Attempt.CaughtUp.replay_eq ?_ table.rows⟩
    rcases reached with caughtUp | deletes
    · exact caughtUp
    · exact caughtUp_of_deletesLast held.catalog_eq sound member deletes

theorem note_eq_ok
    {journal after : Journal}
    {fault : Option WriteFault}
    {write : Write}
    (noted : (journal.note fault write).result = .ok after) :
    after.writes = journal.writes ++ [write] := by
  cases fault with
  | some fault => cases noted
  | none =>
      obtain rfl := Except.ok.inj noted
      rfl

/-- A journal notes its successful writes. -/
theorem records_journal : Records Journal.gateway Journal.writes where
  append _ _ _ _ := note_eq_ok
  overwrite _ _ _ := note_eq_ok

/-- To make a journal fail takes none of its writes away. -/
theorem writes_of_failingSteps
    (steps : List ((Option WriteFault × Option WriteFault) × String)) :
    ∀ step ∈ failingSteps steps, ∀ journal, (step.1 journal).writes = journal.writes := by
  intro step member journal
  obtain ⟨own, _, rfl⟩ := List.mem_map.1 member
  rfl

/-- An insertion that cannot be written, and then a deletion that drops no row. -/
def lapseSteps : List ((Option WriteFault × Option WriteFault) × String) :=
  [((some fullDisk, none), "INSERT INTO T (a) VALUES (2)"),
    ((none, none), "DELETE FROM t WHERE a < 0")]

/-- The deletion also writes the row that could not be written before it. -/
theorem rows_eq_replay_of_caughtUp_sample :
    ∃ (after : Catalog) (writes : List Write),
      ((sampleJournal.start Journal.gateway).database.afterTrials Journal.gateway
        (failingSteps lapseSteps)).catalog = some after ∧
      writes = [.overwrite (some "T") [[.integer 1], [.integer 2]]] ∧
      after.tables.map Table.rows = [Write.replay (some "T") sampleTable.rows writes] := by
  have started : (sampleJournal.start Journal.gateway).result = .ok () := by decide +kernel
  have loaded : (sampleJournal.start Journal.gateway).database.catalog = some ⟨[sampleTable]⟩ := by
    decide +kernel
  have deletes : (sampleJournal.start Journal.gateway).database.DeletesLast Journal.gateway
      (failingSteps lapseSteps) sampleTable := by
    refine ⟨failingSteps [((some fullDisk, none), "INSERT INTO T (a) VALUES (2)")],
      failing (none, none), "DELETE FROM t WHERE a < 0", "t", some ⟨"a", .less, "0"⟩,
      .accepted (.deleted "T" 0 none), rfl, ?_, ?_, ?_, rfl⟩ <;> decide +kernel
  have noted : ((sampleJournal.start Journal.gateway).database.afterTrials Journal.gateway
      (failingSteps lapseSteps)).storage.writes =
        [.overwrite (some "T") [[.integer 1], [.integer 2]]] := by decide +kernel
  obtain ⟨before, after, loadedBefore, ran, writes, tables⟩ :=
    rows_eq_replay_of_caughtUp Journal.loadsSound started (failingSteps lapseSteps)
  obtain rfl := Option.some.inj (loadedBefore.symm.trans loaded)
  have written := writes Journal.writes records_journal (writes_of_failingSteps lapseSteps)
  obtain ⟨now, rest, ⟨_, _, rowsEq⟩, others, afterEq⟩ := List.forall₂_cons_left_iff.1 tables
  obtain rfl := List.forall₂_nil_left_iff.1 others
  refine ⟨after, _, ran, written.symm.trans noted, ?_⟩
  rw [afterEq, List.map_singleton, rowsEq (.inr deletes)]
  rfl

end Engine
end FlatTables
