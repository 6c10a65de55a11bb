import FlatTables.Proofs.Engine.History
import FlatTables.Proofs.Engine.Noninterference
import FlatTables.Proofs.Engine.Totality
import FlatTables.Proofs.Samples

/-!
# Rows are conserved

An insertion adds the one row it tells of to the loaded tables, and a deletion removes as many rows
as it tells of. From a start to the matching stop, the rows of all tables are therefore those that
were loaded, with the rows that were counted as inserted and without those counted as deleted.
-/

namespace FlatTables

/-! ## The rows of a catalog -/

namespace Catalog

/-- How many rows the tables have altogether. -/
def rowCount (catalog : Catalog) : Nat :=
  (catalog.tables.map Table.size).sum

/-- In a sound catalog, a name leads to one table, and only its rows are edited. -/
theorem Sound.rowCount_edit
    {catalog : Catalog}
    (sound : catalog.Sound)
    {name : String}
    {table : Table}
    (found : catalog.find? name = some table)
    (change : List Row → List Row) :
    (catalog.edit name change).rowCount + table.size =
      catalog.rowCount + (change table.rows).length := by
  have unique := sound.distinct.of_map
  have called : ∀ other ∈ catalog.tables, other.isCalled name = true → other = table :=
    fun other member => sound.eq_of_isCalled found member
  obtain ⟨before, after, tables⟩ := List.append_of_mem (mem_of_find? found)
  rw [tables] at unique called
  -- The table stands once in the list, so the tables on both sides are left as they are.
  have kept : ∀ others : List Table, table ∉ others →
      (∀ other ∈ others, other ∈ before ++ table :: after) →
      others.map (fun other =>
        if other.isCalled name then { other with rows := change other.rows } else other) =
          others := by
    intro others absent members
    refine (List.map_congr_left fun other member => ?_).trans (List.map_id others)
    rw [if_neg fun own => absent (called other (members other member) own ▸ member), id]
  rw [List.nodup_append, List.nodup_cons] at unique
  obtain ⟨_, ⟨notAfter, _⟩, disjoint⟩ := unique
  have notBefore : table ∉ before := fun member => disjoint table member table (by simp) rfl
  rw [rowCount, Catalog.edit, rowCount, tables, List.map_append, List.map_cons,
    kept before notBefore (by simp +contextual), kept after notAfter (by simp +contextual),
    if_pos (isCalled_of_find? found)]
  simp only [List.map_append, List.map_cons, List.sum_append, List.sum_cons, Table.size]
  omega

end Catalog

namespace Engine

open Query (Statement StatementType)
open Storage (Gateway Journal WriteFault)
open Telemetry

variable {σ : Type}

/-- The rows of the tables after a plan differ from those before by the rows its outcome tells
of. -/
theorem Plan.rowCount_tablesAfter
    {catalog : Catalog}
    (sound : catalog.Sound)
    {statement : Statement}
    {plan : Plan}
    (planned : ofStatement catalog statement = .ok plan)
    (failure : Option String) :
    (plan.tablesAfter catalog).rowCount +
        Metrics.rowsAffected (Reply.accepted (plan.outcome failure)).observed .delete =
      catalog.rowCount +
        Metrics.rowsAffected (Reply.accepted (plan.outcome failure)).observed .insert := by
  rw [rowsAffected_observed, rowsAffected_observed]
  cases statement with
  | select columns name condition =>
      obtain ⟨_, _, _, _, _, rfl⟩ := ofSelect_eq_ok sound planned
      rfl
  | insert name attributes literals =>
      obtain ⟨table, row, found, _, _, _, rfl⟩ := ofInsert_eq_ok sound planned
      have edited := sound.rowCount_edit found (· ++ [row])
      rw [← sound.update_eq_edit found, List.length_append] at edited
      change (catalog.update (table.name.getD "") { table with
          rows := table.rows ++ [row] }).rowCount = catalog.rowCount + 1
      simp only [Table.size, List.length_singleton] at edited
      omega
  | delete name condition =>
      obtain ⟨table, found, rfl⟩ := ofDelete_eq_ok sound planned
      have edited :=
        sound.rowCount_edit found (·.filter (!selects condition table.schema ·))
      rw [← sound.update_eq_edit found] at edited
      have shrunk := List.length_filter_le (!selects condition table.schema ·) table.rows
      change (catalog.update (table.name.getD "") { table with
          rows := table.rows.filter (!selects condition table.schema ·) }).rowCount +
        (table.size - _) = catalog.rowCount
      simp only [Table.size] at edited ⊢
      omega

/-- On a sound catalog, a statement is answered if a failure of its write can be reported, and the
rows of the tables change by those its answer tells of. -/
theorem rowCount_execute
    {gateway : Gateway σ}
    {database : Database σ}
    {catalog : Catalog}
    (loaded : database.catalog = some catalog)
    (sound : catalog.Sound)
    {sql : String}
    (reportable : (database.trial gateway sql).FailsReportably) :
    ∃ after, (database.execute gateway sql).database.catalog = some after ∧ after.Sound ∧
      after.rowCount + Metrics.rowsAffected
          (observations (database.execute gateway sql).signals) .delete =
        catalog.rowCount + Metrics.rowsAffected
          (observations (database.execute gateway sql).signals) .insert := by
  rw [Database.observations_execute]
  obtain ⟨after, held, afterSound⟩ := sound_trial gateway loaded sound sql
  refine ⟨after, held, afterSound, ?_⟩
  cases planned : Plan.ofText catalog sql with
  | error answer =>
      obtain ⟨type, rejection, rfl⟩ := Plan.rejected_of_ofText sound planned
      obtain ⟨_, result, unchanged⟩ := trial_of_unplanned gateway loaded planned
      obtain rfl := Option.some.inj (unchanged.catalog_eq.symm.trans held)
      change (database.execute gateway sql).result = _ at result
      rw [result, observedOf, rowsAffected_observed, rowsAffected_observed]
      rfl
  | ok plan =>
      obtain ⟨statement, _, own⟩ := Plan.ofText_eq_ok_iff.1 planned
      obtain ⟨failure, result, _, _, changed⟩ := accepted_of_planned loaded planned reportable
      obtain rfl := Option.some.inj (changed.symm.trans held)
      change (database.execute gateway sql).result = _ at result
      rw [result]
      exact Plan.rowCount_tablesAfter sound own failure

theorem exists_reported_of_isExpected
    {fault : WriteFault}
    (expected : fault.IsExpected) :
    ∃ message, fault.reported? = some message := by
  cases expected with
  | storage own => exact ⟨_, rfl⟩
  | system own => exact ⟨_, rfl⟩

/-- A write that a plan asks for fails in an expected way if it fails. -/
theorem Plan.isExpected_of_attempt
    {gateway : Gateway σ}
    (expected : gateway.FailsAsExpected)
    {plan : Plan}
    {storage : σ}
    {attempt : Attempt σ}
    (asked : plan.attempt? gateway storage = some attempt)
    {fault : WriteFault}
    (failed : attempt.fault? = some fault) :
    fault.IsExpected := by
  unfold Attempt.fault? at failed
  split at failed
  · cases failed
  · rename_i written
    obtain rfl := Option.some.inj failed
    cases plan with
    | select result => cases asked
    | insert table row =>
        obtain rfl := Option.some.inj asked
        exact expected.append table row storage _ written
    | delete table count =>
        obtain rfl := Option.some.inj asked
        exact expected.overwrite table storage _ written

/-- If writes fail in expected ways only, every failure is reported. -/
theorem failsReportably_of_failsAsExpected
    {gateway : Gateway σ}
    (expected : gateway.FailsAsExpected)
    (database : Database σ)
    (sql : String) :
    (database.trial gateway sql).FailsReportably := by
  intro fault failed
  obtain ⟨attempt, own, faulty⟩ := Option.bind_eq_some_iff.1 failed
  obtain ⟨catalog, _, bound⟩ := Option.bind_eq_some_iff.1 own
  obtain ⟨plan, _, asked⟩ := Option.bind_eq_some_iff.1 bound
  exact exists_reported_of_isExpected (plan.isExpected_of_attempt expected asked faulty)

/-! ## From a start to a stop -/

namespace History

/-- No write fails on the way in a manner that the engine does not report. -/
def Reportable (gateway : Gateway σ) (history : History σ) : List ((σ → σ) × Command) → Prop
  | [] => True
  | step :: rest =>
      (∀ sql, step.2 = .execute sql →
        ((history.database.disturbed step.1).trial gateway sql).FailsReportably) ∧
      (history.next gateway step).Reportable gateway rest

/-- A gateway whose writes fail in expected ways only has all failures reported. -/
theorem reportable_of_failsAsExpected
    {gateway : Gateway σ}
    (expected : gateway.FailsAsExpected)
    (history : History σ)
    (steps : List ((σ → σ) × Command)) :
    history.Reportable gateway steps := by
  induction steps generalizing history with
  | nil => trivial
  | cons step rest inductionHypothesis =>
      exact ⟨fun sql _ => failsReportably_of_failsAsExpected expected _ sql,
        inductionHypothesis _⟩

/-- Between a start and a stop, a call changes the rows of the tables as it is observed. -/
theorem rowCount_next
    {gateway : Gateway σ}
    {history : History σ}
    {catalog : Catalog}
    (loaded : history.database.catalog = some catalog)
    (sound : catalog.Sound)
    {step : (σ → σ) × Command}
    (running : step.2 ≠ .stop)
    (reportable : ∀ sql, step.2 = .execute sql →
      ((history.database.disturbed step.1).trial gateway sql).FailsReportably) :
    ∃ after, (history.next gateway step).database.catalog = some after ∧ after.Sound ∧
      after.rowCount + (history.next gateway step).rowsCounted .delete +
          history.rowsCounted .insert =
        catalog.rowCount + (history.next gateway step).rowsCounted .insert +
          history.rowsCounted .delete := by
  obtain ⟨change, command⟩ := step
  unfold rowsCounted total
  simp only [Metrics.total_rowsAffected]
  have kept : (history.database.disturbed change).catalog = some catalog := loaded
  cases command with
  | stop => exact absurd rfl running
  | start =>
      have started : (history.database.disturbed change).start gateway =
          (history.database.disturbed change).refuse .alreadyStarted := by
        unfold Database.start Database.isStarted
        rw [kept]
        rfl
      unfold next call
      simp only [started, Database.refuse, observations, List.filterMap_nil, List.append_nil]
      exact ⟨catalog, kept, sound, by omega⟩
  | execute sql =>
      obtain ⟨after, held, afterSound, conserved⟩ :=
        rowCount_execute kept sound (reportable sql rfl)
      unfold next call
      refine ⟨after, held, afterSound, ?_⟩
      simp only [Metrics.rowsAffected_append]
      omega

/-- Until the next stop, the rows of the tables change as they are counted. -/
theorem rowCount_after
    {gateway : Gateway σ}
    {history : History σ}
    {catalog : Catalog}
    (loaded : history.database.catalog = some catalog)
    (sound : catalog.Sound)
    {steps : List ((σ → σ) × Command)}
    (running : ∀ step ∈ steps, step.2 ≠ .stop)
    (reportable : history.Reportable gateway steps) :
    ∃ after, (history.after gateway steps).database.catalog = some after ∧
      after.rowCount + (history.after gateway steps).rowsCounted .delete +
          history.rowsCounted .insert =
        catalog.rowCount + (history.after gateway steps).rowsCounted .insert +
          history.rowsCounted .delete := by
  induction steps generalizing history catalog with
  | nil => exact ⟨catalog, loaded, by rw [History.after, List.foldl_nil]; omega⟩
  | cons step rest inductionHypothesis =>
      rw [List.forall_mem_cons] at running
      obtain ⟨middle, held, middleSound, first⟩ :=
        rowCount_next loaded sound running.1 reportable.1
      obtain ⟨after, reached, others⟩ :=
        inductionHypothesis held middleSound running.2 reportable.2
      refine ⟨after, reached, ?_⟩
      rw [History.after, List.foldl_cons]
      rw [History.after] at others
      omega

/-- Whatever a new database is called to do, the number of statements it has answered and the number
of those it has rejected are the same in its statistics, in the metrics and among the answers. The
metrics count the rows that the accepted statements of each type tell of, and as failed writes the
accepted changes that are not persisted.

After a start that succeeds, and up to the next stop, the rows of all tables are those that were
loaded, with the rows counted as inserted since then and without those counted as deleted. Writes
may fail as they like as long as the failures are reported. -/
theorem statistics_metrics_and_rows_agree
    {gateway : Gateway σ}
    (loadsSound : gateway.LoadsSound)
    (storage : σ)
    (steps : List ((σ → σ) × Command)) :
    ((new storage).after gateway steps).Agrees ∧
      ∀ (before : List ((σ → σ) × Command)) (change : σ → σ)
        (during : List ((σ → σ) × Command)),
        steps = before ++ (change, .start) :: during →
        (∀ step ∈ during, step.2 ≠ .stop) →
        ((((new storage).after gateway before).database.disturbed change).start gateway).result =
          .ok () →
        ((new storage).after gateway (before ++ [(change, .start)])).Reportable gateway during →
        ∃ loaded catalog,
          (gateway.load (change ((new storage).after gateway before).database.storage)).result =
            .ok loaded ∧
          ((new storage).after gateway steps).database.catalog = some catalog ∧
          (catalog.rowCount : Int) = loaded.rowCount +
            (((new storage).after gateway steps).rowsCounted .insert -
              ((new storage).after gateway (before ++ [(change, .start)])).rowsCounted .insert) -
            (((new storage).after gateway steps).rowsCounted .delete -
              ((new storage).after gateway
                (before ++ [(change, .start)])).rowsCounted .delete) := by
  refine ⟨((balanced_new storage).after gateway steps).agrees, ?_⟩
  intro before change during split running started reportable
  obtain ⟨loaded, read, held⟩ := holds_start started
  have sound := loadsSound _ loaded read
  have opened :
      ((new storage).after gateway (before ++ [(change, .start)])).database.catalog =
        some loaded := by
    rw [History.after, List.foldl_append]
    exact held.catalog_eq
  obtain ⟨catalog, reached, conserved⟩ := rowCount_after opened sound running reportable
  have same : ((new storage).after gateway (before ++ [(change, .start)])).after gateway during =
      (new storage).after gateway steps := by
    rw [split, History.after, History.after, History.after, ← List.foldl_append,
      List.append_assoc, List.singleton_append]
  rw [same] at reached conserved
  exact ⟨loaded, catalog, read, reached, by omega⟩

/-- An insertion, a deletion that finds the disk full, a statement that is rejected and a second
start. -/
def fullDiskSteps : List ((Nat → Nat) × Command) :=
  [(id, .execute "INSERT INTO t (a) VALUES (2)"), (id, .execute "DELETE FROM T WHERE a < 2"),
    (id, .execute "DELETE FROM u"), (id, .start)]

/-- With room for one write, the single row that is loaded gives way to the single row that is
inserted. -/
theorem statistics_metrics_and_rows_agree_full_disk :
    ((new 1).after limitedGateway ((id, .start) :: fullDiskSteps)).Agrees ∧
      ((new 1).after limitedGateway ((id, .start) :: fullDiskSteps)).replies.length = 3 ∧
      ∃ catalog,
        ((new 1).after limitedGateway ((id, .start) :: fullDiskSteps)).database.catalog =
          some catalog ∧
        (catalog.rowCount : Int) = 1 + (1 - 0) - (1 - 0) := by
  have loadsSound : limitedGateway.LoadsSound := by
    intro room catalog loaded
    obtain rfl := Except.ok.inj loaded
    exact Journal.loadsSound sampleJournal.storage _ (by decide +kernel)
  have agreeing := statistics_metrics_and_rows_agree loadsSound 1 ((id, .start) :: fullDiskSteps)
  obtain ⟨loaded, catalog, read, reached, conserved⟩ := agreeing.2 [] id fullDiskSteps rfl
    (by simp [fullDiskSteps]) rfl (reportable_of_failsAsExpected failsAsExpected_limitedGateway _ _)
  refine ⟨agreeing.1, by decide +kernel, catalog, reached, ?_⟩
  obtain rfl := Except.ok.inj read
  refine conserved.trans ?_
  decide +kernel

end History
end Engine
end FlatTables
