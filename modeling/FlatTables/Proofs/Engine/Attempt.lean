import FlatTables.Proofs.Engine.Encodable

/-!
# Attempted writes

A statement is read and planned on the tables alone. Then the tables change as planned, and only
after that the gateway is asked, at most once, to write the change. What the gateway reports decides
on nothing but the storage and on what the answer says of the write. A run of trials lets the
storage change from outside before every statement, so its writes may fail in any pattern.
-/

namespace FlatTables
namespace Engine

open Query (Statement)
open Storage (Gateway Journal Write WriteFault WriteReport)

variable {σ : Type}

/-! ## Planned statements -/

/-- A write that the gateway was asked for, and what it has reported. -/
structure Attempt (σ : Type) where
  write : Write
  report : WriteReport σ

/-- Why the write has failed, if it has. -/
def Attempt.fault? (attempt : Attempt σ) : Option WriteFault :=
  match attempt.report.result with
  | .ok _ => none
  | .error fault => some fault

namespace Plan

/-- Read a statement and plan it. A statement without a plan has an answer instead. -/
def ofText (catalog : Catalog) (sql : String) : Except (Except Fault Reply) Plan :=
  match Statement.parse sql with
  | .error rejection => .error (.ok (.rejected none rejection))
  | .ok statement =>
      (ofStatement catalog statement).mapError fun fault =>
        Database.replyTo statement.type (.error fault)

/-- The write that a plan asks for. -/
def write? : Plan → Option Write
  | .select _ => none
  | .insert table row => some (.append table.name row)
  | .delete table _ => some (.overwrite table.name table.rows)

/-- Ask the gateway for the write of a plan. -/
def attempt? (gateway : Gateway σ) (storage : σ) : Plan → Option (Attempt σ)
  | .select _ => none
  | .insert table row => some ⟨.append table.name row, gateway.append table row storage⟩
  | .delete table _ => some ⟨.overwrite table.name table.rows, gateway.overwrite table storage⟩

/-- Every gateway is asked for the same write. -/
theorem write_attempt?
    (gateway : Gateway σ)
    (storage : σ)
    (plan : Plan) :
    (plan.attempt? gateway storage).map Attempt.write = plan.write? := by
  cases plan <;> rfl

/-- The tables after a plan has been carried out. -/
def tablesAfter (catalog : Catalog) : Plan → Catalog
  | .select _ => catalog
  | .insert table _ | .delete table _ => catalog.update (table.name.getD "") table

/-- The outcome of a plan, given the message of the failure of its write. -/
def outcome : Plan → Option String → Outcome
  | .select result, _ => .selected result
  | .insert table _, failure => .inserted (table.name.getD "") failure
  | .delete table count, failure => .deleted (table.name.getD "") count failure

/-- The answer to a planned statement, given the write it has attempted. -/
def answer (plan : Plan) : Option (Attempt σ) → Except Fault Reply
  | none => .ok (.accepted (plan.outcome none))
  | some attempt => conclude plan.outcome attempt.report

end Plan

/-- The storage after a write that may have been attempted. -/
def storageAfter (attempt? : Option (Attempt σ)) (before : σ) : σ :=
  attempt?.elim before fun attempt => attempt.report.state before

/-- The write that a statement attempts on a database. -/
def Database.attempt? (gateway : Gateway σ) (database : Database σ) (sql : String) :
    Option (Attempt σ) :=
  database.catalog.bind fun catalog =>
    (Plan.ofText catalog sql).toOption.bind fun plan => plan.attempt? gateway database.storage

/-- What one statement came to, and the write it has attempted. -/
structure Trial (σ : Type) where
  attempt? : Option (Attempt σ)
  turn : Turn σ Reply

/-- Why the write of a statement has failed, if it has attempted one that failed. -/
def Trial.fault? (trial : Trial σ) : Option WriteFault :=
  trial.attempt?.bind Attempt.fault?

/-- The write of the trial has not failed, or the engine can report the failure. -/
def Trial.FailsReportably (trial : Trial σ) : Prop :=
  ∀ fault, trial.fault? = some fault → ∃ message, fault.reported? = some message

/-- Execute a statement and note the write it attempts. -/
def Database.trial (gateway : Gateway σ) (database : Database σ) (sql : String) : Trial σ :=
  ⟨database.attempt? gateway sql, database.execute gateway sql⟩

section
variable
  (gateway : Gateway σ)
  {database : Database σ}
  {catalog : Catalog}
  (loaded : database.catalog = some catalog)
  {sql : String}
include loaded

/-- A statement without a plan attempts no write and leaves the database as it is. -/
theorem trial_of_unplanned
    {answer : Except Fault Reply}
    (unplanned : Plan.ofText catalog sql = .error answer) :
    (database.trial gateway sql).attempt? = none ∧
      (database.trial gateway sql).turn.result = answer ∧
      (database.trial gateway sql).turn.database.Holds ⟨catalog, database.storage⟩ := by
  unfold Database.trial
  have holds : database.Holds ⟨catalog, database.storage⟩ := ⟨loaded, rfl⟩
  refine ⟨by simp [Database.attempt?, loaded, unplanned, Except.toOption], ?_⟩
  obtain ⟨after, held, step⟩ := step_execute gateway holds sql
  generalize (database.execute gateway sql).result = result at step
  unfold Plan.ofText at unplanned
  cases step with
  | unread parsed =>
      simp only [parsed, Except.error.injEq] at unplanned
      exact ⟨unplanned, held⟩
  | refused parsed refusal =>
      simp only [parsed, refusal, mapError_error, Except.error.injEq] at unplanned
      exact ⟨unplanned, held⟩
  | selected parsed planned | inserted parsed planned | deleted parsed planned =>
      simp [parsed, planned] at unplanned

/-- A planned statement attempts the write of its plan. The tables change as planned whatever comes
of the write. -/
theorem trial_of_planned
    {plan : Plan}
    (planned : Plan.ofText catalog sql = .ok plan) :
    (database.trial gateway sql).attempt? = plan.attempt? gateway database.storage ∧
      (database.trial gateway sql).turn.result =
        plan.answer (plan.attempt? gateway database.storage) ∧
      (database.trial gateway sql).turn.database.Holds
        ⟨plan.tablesAfter catalog,
          storageAfter (plan.attempt? gateway database.storage) database.storage⟩ := by
  unfold Database.trial
  have holds : database.Holds ⟨catalog, database.storage⟩ := ⟨loaded, rfl⟩
  refine ⟨by simp [Database.attempt?, loaded, planned, Except.toOption], ?_⟩
  obtain ⟨after, held, step⟩ := step_execute gateway holds sql
  generalize (database.execute gateway sql).result = result at step
  unfold Plan.ofText at planned
  cases step with
  | unread parsed => simp [parsed] at planned
  | refused parsed refusal => simp [parsed, refusal] at planned
  | selected parsed own | inserted parsed own | deleted parsed own =>
      simp only [parsed, own, mapError_ok, Except.ok.injEq] at planned
      subst planned
      exact ⟨rfl, held⟩

end

/-- Every plan that is made of a text is the plan of the statement it is read as. -/
theorem Plan.ofText_eq_ok_iff
    {catalog : Catalog}
    {sql : String}
    {plan : Plan} :
    ofText catalog sql = .ok plan ↔
      ∃ statement, Statement.parse sql = .ok statement ∧
        ofStatement catalog statement = .ok plan := by
  unfold ofText
  cases Statement.parse sql with
  | error rejection => simp
  | ok statement => simp [mapError_eq_ok_iff]

/-- What a text is planned as depends on the table it names only. -/
theorem Plan.ofText_congr
    {left right : Catalog}
    {sql : String}
    (sameTable : ∀ statement, Statement.parse sql = .ok statement →
      left.find? statement.table = right.find? statement.table) :
    ofText left sql = ofText right sql := by
  unfold ofText
  cases parsed : Statement.parse sql with
  | error rejection => rfl
  | ok statement =>
      exact congrArg (Except.mapError _) (ofStatement_congr (sameTable statement parsed))

/-- On a sound catalog, a text without a plan is rejected. -/
theorem Plan.rejected_of_ofText
    {catalog : Catalog}
    (sound : catalog.Sound)
    {sql : String}
    {answer : Except Fault Reply}
    (unplanned : ofText catalog sql = .error answer) :
    ∃ type rejection, answer = .ok (.rejected type rejection) := by
  unfold ofText at unplanned
  cases parsed : Statement.parse sql with
  | error rejection =>
      simp only [parsed, Except.error.injEq] at unplanned
      exact ⟨none, rejection, unplanned.symm⟩
  | ok statement =>
      simp only [parsed, mapError_eq_error_iff] at unplanned
      obtain ⟨fault, refusal, rfl⟩ := unplanned
      obtain ⟨rejection, rfl⟩ := rejecting_of_ofStatement sound refusal
      exact ⟨some statement.type, rejection, rfl⟩

/-- A sound catalog stays sound. -/
theorem sound_trial
    (gateway : Gateway σ)
    {database : Database σ}
    {catalog : Catalog}
    (loaded : database.catalog = some catalog)
    (sound : catalog.Sound)
    (sql : String) :
    ∃ after, (database.trial gateway sql).turn.database.catalog = some after ∧ after.Sound := by
  have holds : database.Holds ⟨catalog, database.storage⟩ := ⟨loaded, rfl⟩
  obtain ⟨after, held, step⟩ := step_execute gateway holds sql
  exact ⟨after.catalog, held.catalog_eq, (step.effect sound).sound sound⟩

/-! ## Runs of trials -/

namespace Database

/-- The database after a change of its storage from outside. -/
def disturbed (database : Database σ) (change : σ → σ) : Database σ :=
  { database with storage := change database.storage }

/-- Execute statements in order, each after a change of the storage from outside. Nothing ends the
run early. -/
def trials (gateway : Gateway σ) (database : Database σ) :
    List ((σ → σ) × String) → List (Trial σ)
  | [] => []
  | (change, sql) :: rest =>
      let trial := (database.disturbed change).trial gateway sql
      trial :: trial.turn.database.trials gateway rest

/-- The database after trials. -/
def afterTrials (gateway : Gateway σ) (database : Database σ) (steps : List ((σ → σ) × String)) :
    Database σ :=
  steps.foldl (fun database (change, sql) =>
    ((database.disturbed change).trial gateway sql).turn.database) database

end Database

/-! ## Journals -/

/-- The journal with other failures of its writes. -/
def failing (faults : Option WriteFault × Option WriteFault) (journal : Journal) : Journal :=
  { journal with appendFault := faults.1, overwriteFault := faults.2 }

/-- The steps of a run over a journal, given the failures of each statement. -/
def failingSteps (steps : List ((Option WriteFault × Option WriteFault) × String)) :
    List ((Journal → Journal) × String) :=
  steps.map fun (faults, sql) => (failing faults, sql)

/-- The write of a journal fails as it is made to fail. -/
theorem fault_of_journal
    {plan : Plan}
    {journal : Journal}
    {fault : WriteFault}
    (failed : (plan.attempt? Journal.gateway journal).bind Attempt.fault? = some fault) :
    journal.appendFault = some fault ∨ journal.overwriteFault = some fault := by
  cases plan with
  | select result => cases failed
  | insert table row =>
      cases own : journal.appendFault <;>
        simp_all [Plan.attempt?, Attempt.fault?, Journal.gateway, Journal.note]
  | delete table count =>
      cases own : journal.overwriteFault <;>
        simp_all [Plan.attempt?, Attempt.fault?, Journal.gateway, Journal.note]

/-- If a journal is made to fail only in ways that the engine reports, every failure is reported. -/
theorem failsReportably_of_journal
    {steps : List ((Option WriteFault × Option WriteFault) × String)}
    (reportable : ∀ step ∈ steps, ∀ fault, step.1.1 = some fault ∨ step.1.2 = some fault →
      ∃ message, fault.reported? = some message)
    (database : Database Journal) :
    ∀ trial ∈ database.trials Journal.gateway (failingSteps steps), trial.FailsReportably := by
  induction steps generalizing database with
  | nil => simp [failingSteps, Database.trials]
  | cons step rest inductionHypothesis =>
      rw [List.forall_mem_cons] at reportable
      simp only [failingSteps, List.map_cons, Database.trials, List.forall_mem_cons]
      refine ⟨fun fault failed => reportable.1 fault ?_, inductionHypothesis reportable.2 _⟩
      unfold Trial.fault? Database.trial Database.attempt? at failed
      cases loaded : (database.disturbed (failing step.1)).catalog with
      | none => simp [loaded] at failed
      | some catalog =>
          cases planned : Plan.ofText catalog step.2 with
          | error answer => simp [loaded, planned, Except.toOption] at failed
          | ok plan =>
              simp only [loaded, planned, Except.toOption, Option.bind_some] at failed
              exact fault_of_journal failed

end Engine
end FlatTables
