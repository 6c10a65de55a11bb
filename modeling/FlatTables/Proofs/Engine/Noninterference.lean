import FlatTables.Proofs.Engine.Attempt
import FlatTables.Proofs.Samples

/-!
# Writes that fail

Two databases with equal tables execute the same texts over gateways of their own. Both make the
same plans and ask for the same writes, and what the gateways report decides on nothing but two
parts of an answer: whether the change is persisted, and a remark at the end of the message. So the
tables stay equal and the answers agree, however the writes fail.
-/

namespace FlatTables
namespace Engine

open Query (StatementType)
open Storage (Gateway Journal WriteFault)

variable {σ τ : Type}

/-! ## Agreement -/

/-- Two replies that differ at most in what they say of the write. -/
structure Reply.Agrees (left right : Reply) : Prop where
  success : left.success = right.success
  type? : left.type? = right.type?
  table? : left.table? = right.table?
  columns : left.columns = right.columns
  rows : left.rows = right.rows
  affectedRows : left.affectedRows = right.affectedRows
  rejection? : left.rejection? = right.rejection?
  message : ∃ text, left.message = text ++ Outcome.note left.writeFailure? ∧
    right.message = text ++ Outcome.note right.writeFailure?

/-- Two trials that leave equal tables, have asked for the same write, and are both answered, with
replies that agree. -/
structure Trial.Agrees (left : Trial σ) (right : Trial τ) : Prop where
  catalog : left.turn.database.catalog = right.turn.database.catalog
  write : left.attempt?.map Attempt.write = right.attempt?.map Attempt.write
  replies : ∃ leftReply rightReply, left.turn.result = .ok leftReply ∧
    right.turn.result = .ok rightReply ∧ leftReply.Agrees rightReply

/-- A statement that is accepted is said not to be persisted exactly if its own write has failed. -/
def Trial.TellsFailure (trial : Trial σ) : Prop :=
  ∀ reply, trial.turn.result = .ok reply → reply.success = true →
    (reply.persisted = false ↔ ∃ fault, trial.fault? = some fault)

/-- A rejection agrees with itself. -/
theorem Reply.agrees_rejected
    (type : Option StatementType)
    (rejection : Rejection) :
    (Reply.rejected type rejection).Agrees (.rejected type rejection) where
  success := rfl
  type? := rfl
  table? := rfl
  columns := rfl
  rows := rfl
  affectedRows := rfl
  rejection? := rfl
  message := ⟨rejection.message, String.append_empty.symm, String.append_empty.symm⟩

/-- The outcomes of one plan agree, whichever of them tell of a failure. -/
theorem Plan.agrees_accepted
    (plan : Plan)
    (left right : Option String) :
    (Reply.accepted (plan.outcome left)).Agrees (.accepted (plan.outcome right)) := by
  cases plan with
  | select result =>
      exact ⟨rfl, rfl, rfl, rfl, rfl, rfl, rfl, (Outcome.selected result).message,
        String.append_empty.symm, String.append_empty.symm⟩
  | insert table row => exact ⟨rfl, rfl, rfl, rfl, rfl, rfl, rfl, _, rfl, rfl⟩
  | delete table count => exact ⟨rfl, rfl, rfl, rfl, rfl, rfl, rfl, _, rfl, rfl⟩

/-! ## One statement -/

/-- If the failure of a write can be reported, the change is accepted, with a message of the failure
if there is one. -/
theorem Attempt.conclude_eq_ok
    {attempt : Attempt σ}
    (reportable :
      ∀ fault, attempt.fault? = some fault → ∃ message, fault.reported? = some message)
    (outcome : Option String → Outcome) :
    ∃ failure, conclude outcome attempt.report = .ok (.accepted (outcome failure)) ∧
      (failure.isSome ↔ ∃ fault, attempt.fault? = some fault) := by
  unfold fault? at reportable ⊢
  cases written : attempt.report.result with
  | ok state => exact ⟨none, by simp [conclude, written], by simp⟩
  | error fault =>
      obtain ⟨message, reported⟩ := reportable fault (by rw [written])
      exact ⟨some message, by simp [conclude, written, reported], by simp⟩

/-- A plan is answered if the failure of its write can be reported, and the answer says that the
change is not persisted exactly if there is such a failure. -/
theorem Plan.answer_eq_ok
    {plan : Plan}
    {gateway : Gateway σ}
    {storage : σ}
    (reportable : ∀ fault, (plan.attempt? gateway storage).bind Attempt.fault? = some fault →
      ∃ message, fault.reported? = some message) :
    ∃ failure,
      plan.answer (plan.attempt? gateway storage) = .ok (.accepted (plan.outcome failure)) ∧
      ((plan.outcome failure).persisted = false ↔
        ∃ fault, (plan.attempt? gateway storage).bind Attempt.fault? = some fault) := by
  cases plan with
  | select result =>
      exact ⟨none, rfl, by simp [attempt?, outcome, Outcome.persisted, Outcome.writeFailure?]⟩
  | insert table row =>
      obtain ⟨failure, answered, failed⟩ :=
        Attempt.conclude_eq_ok reportable (outcome (.insert table row))
      refine ⟨failure, answered, Iff.trans ?_ failed⟩
      cases failure <;> simp [outcome, Outcome.persisted, Outcome.writeFailure?]
  | delete table count =>
      obtain ⟨failure, answered, failed⟩ :=
        Attempt.conclude_eq_ok reportable (outcome (.delete table count))
      refine ⟨failure, answered, Iff.trans ?_ failed⟩
      cases failure <;> simp [outcome, Outcome.persisted, Outcome.writeFailure?]

/-- A rejection says nothing of a write. -/
theorem Trial.tellsFailure_of_rejected
    {trial : Trial σ}
    {type : Option StatementType}
    {rejection : Rejection}
    (rejected : trial.turn.result = .ok (.rejected type rejection)) :
    trial.TellsFailure := by
  intro reply answered success
  rw [rejected, Except.ok.injEq] at answered
  subst answered
  cases success

/-- The trial of a planned statement is answered with an outcome of the plan if the failure of its
write can be reported. -/
theorem accepted_of_planned
    {gateway : Gateway σ}
    {database : Database σ}
    {catalog : Catalog}
    (loaded : database.catalog = some catalog)
    {sql : String}
    {plan : Plan}
    (planned : Plan.ofText catalog sql = .ok plan)
    (reportable : (database.trial gateway sql).FailsReportably) :
    ∃ failure,
      (database.trial gateway sql).turn.result = .ok (.accepted (plan.outcome failure)) ∧
      (database.trial gateway sql).TellsFailure ∧
      (database.trial gateway sql).attempt? = plan.attempt? gateway database.storage ∧
      (database.trial gateway sql).turn.database.catalog = some (plan.tablesAfter catalog) := by
  obtain ⟨attempted, result, held⟩ := trial_of_planned gateway loaded planned
  unfold Trial.FailsReportably Trial.fault? at reportable
  rw [attempted] at reportable
  obtain ⟨failure, answered, persisted⟩ := Plan.answer_eq_ok reportable
  refine ⟨failure, result.trans answered, ?_, attempted, held.catalog_eq⟩
  intro reply ownAnswer _
  obtain rfl := Except.ok.inj (ownAnswer.symm.trans (result.trans answered))
  unfold Trial.fault?
  rw [attempted]
  exact persisted

/-- A change that has a reply although its write has failed tells of the failure. -/
theorem Attempt.reported_of_conclude
    {attempt : Attempt σ}
    {outcome : Option String → Outcome}
    {reply : Reply}
    (concluded : conclude outcome attempt.report = .ok reply)
    {fault : WriteFault}
    (failed : attempt.fault? = some fault) :
    ∃ message, fault.reported? = some message := by
  unfold conclude at concluded
  unfold fault? at failed
  cases written : attempt.report.result with
  | ok state =>
      rw [written] at failed
      cases failed
  | error own =>
      simp only [written, Option.some.injEq] at failed concluded
      subst failed
      cases reported : own.reported? with
      | some message => exact ⟨message, rfl⟩
      | none =>
          rw [reported] at concluded
          cases concluded

/-- On sound tables, a statement has a reply exactly if its write has not failed, or the engine can
report the failure. -/
theorem answered_iff_failsReportably
    (gateway : Gateway σ)
    {database : Database σ}
    {catalog : Catalog}
    (loaded : database.catalog = some catalog)
    (sound : catalog.Sound)
    (sql : String) :
    (∃ reply, (database.execute gateway sql).result = .ok reply) ↔
      (database.trial gateway sql).FailsReportably := by
  cases planned : Plan.ofText catalog sql with
  | error answer =>
      obtain ⟨type, rejection, rfl⟩ := Plan.rejected_of_ofText sound planned
      obtain ⟨attempted, result, _⟩ := trial_of_unplanned gateway loaded planned
      refine iff_of_true ⟨_, result⟩ fun fault failed => ?_
      rw [Trial.fault?, attempted] at failed
      cases failed
  | ok plan =>
      obtain ⟨attempted, result, _⟩ := trial_of_planned gateway loaded planned
      constructor
      · rintro ⟨reply, answered⟩ fault failed
        rw [Trial.fault?, attempted] at failed
        obtain ⟨attempt, own, failed⟩ := Option.bind_eq_some_iff.1 failed
        rw [own] at result
        have concluded : conclude plan.outcome attempt.report = .ok reply :=
          result.symm.trans answered
        exact Attempt.reported_of_conclude concluded failed
      · intro reportable
        obtain ⟨failure, answered, _⟩ := accepted_of_planned loaded planned reportable
        exact ⟨_, answered⟩

section
variable
  (left : Gateway σ)
  (right : Gateway τ)
  {leftDatabase : Database σ}
  {rightDatabase : Database τ}
  {catalog : Catalog}
  (sound : catalog.Sound)
  (leftLoaded : leftDatabase.catalog = some catalog)
  (rightLoaded : rightDatabase.catalog = some catalog)
include sound leftLoaded rightLoaded

/-- On equal tables, the trials of one text agree. -/
theorem agrees_trial
    {sql : String}
    (leftReportable : (leftDatabase.trial left sql).FailsReportably)
    (rightReportable : (rightDatabase.trial right sql).FailsReportably) :
    (leftDatabase.trial left sql).Agrees (rightDatabase.trial right sql) ∧
      (leftDatabase.trial left sql).TellsFailure ∧
      (rightDatabase.trial right sql).TellsFailure := by
  cases planned : Plan.ofText catalog sql with
  | error answer =>
      obtain ⟨type, rejection, rfl⟩ := Plan.rejected_of_ofText sound planned
      obtain ⟨leftAttempt, leftResult, leftHeld⟩ := trial_of_unplanned left leftLoaded planned
      obtain ⟨rightAttempt, rightResult, rightHeld⟩ :=
        trial_of_unplanned right rightLoaded planned
      refine ⟨⟨?_, ?_, ?_⟩, ?_, ?_⟩
      · exact leftHeld.catalog_eq.trans rightHeld.catalog_eq.symm
      · rw [leftAttempt, rightAttempt, Option.map_none, Option.map_none]
      · exact ⟨_, _, leftResult, rightResult, Reply.agrees_rejected type rejection⟩
      · exact Trial.tellsFailure_of_rejected leftResult
      · exact Trial.tellsFailure_of_rejected rightResult
  | ok plan =>
      obtain ⟨leftFailure, leftResult, leftTells, leftAttempt, leftCatalog⟩ :=
        accepted_of_planned leftLoaded planned leftReportable
      obtain ⟨rightFailure, rightResult, rightTells, rightAttempt, rightCatalog⟩ :=
        accepted_of_planned rightLoaded planned rightReportable
      refine ⟨⟨?_, ?_, ?_⟩, leftTells, rightTells⟩
      · exact leftCatalog.trans rightCatalog.symm
      · rw [leftAttempt, rightAttempt, Plan.write_attempt?, Plan.write_attempt?]
      · exact ⟨_, _, leftResult, rightResult, plan.agrees_accepted leftFailure rightFailure⟩

/-! ## Runs -/

/-- Two databases with equal tables execute the same texts, each over its own gateway, and the
storage may change from outside before every text, so any of the writes may fail on either side. If
every failure is one that the engine reports, the tables are equal after every text, the same writes
are asked for, and the two replies agree in all but what they say of the write. Either of them says
that an accepted change is not persisted exactly if the write of that very text has failed. -/
theorem trials_agree_of_reportable
    {leftSteps : List ((σ → σ) × String)}
    {rightSteps : List ((τ → τ) × String)}
    (sameTexts : leftSteps.map Prod.snd = rightSteps.map Prod.snd)
    (leftReportable : ∀ trial ∈ leftDatabase.trials left leftSteps, trial.FailsReportably)
    (rightReportable : ∀ trial ∈ rightDatabase.trials right rightSteps, trial.FailsReportably) :
    List.Forall₂
      (fun leftTrial rightTrial =>
        leftTrial.Agrees rightTrial ∧ leftTrial.TellsFailure ∧ rightTrial.TellsFailure)
      (leftDatabase.trials left leftSteps) (rightDatabase.trials right rightSteps) := by
  induction leftSteps generalizing leftDatabase rightDatabase catalog rightSteps with
  | nil =>
      obtain rfl := List.map_eq_nil_iff.1 sameTexts.symm
      exact .nil
  | cons leftStep leftRest inductionHypothesis =>
      obtain ⟨rightStep, rightRest, rfl, sameText, sameRest⟩ :=
        List.map_eq_cons_iff.1 sameTexts.symm
      obtain ⟨leftChange, sql⟩ := leftStep
      obtain ⟨rightChange, _⟩ := rightStep
      cases sameText
      simp only [Database.trials, List.forall_mem_cons] at leftReportable rightReportable
      -- A change of the storage from outside leaves the tables.
      have leftKept : (leftDatabase.disturbed leftChange).catalog = some catalog := leftLoaded
      have rightKept : (rightDatabase.disturbed rightChange).catalog = some catalog := rightLoaded
      have agree :=
        agrees_trial left right sound leftKept rightKept leftReportable.1 rightReportable.1
      obtain ⟨after, leftAfter, afterSound⟩ := sound_trial left leftKept sound sql
      exact .cons agree (inductionHypothesis afterSound leftAfter
        (agree.1.catalog.symm.trans leftAfter) sameRest.symm leftReportable.2 rightReportable.2)

end

/-- Three statements over a journal, with the failures that they meet. -/
def sampleSteps (faults : List (Option WriteFault × Option WriteFault)) :
    List ((Option WriteFault × Option WriteFault) × String) :=
  faults.zip
    ["INSERT INTO T (a) VALUES (2)", "DELETE FROM t WHERE a < 2", "SELECT * FROM T"]

/-- One journal keeps both changes and the other one keeps neither. -/
theorem trials_agree_of_reportable_sample :
    List.Forall₂
      (fun leftTrial rightTrial =>
        leftTrial.Agrees rightTrial ∧ leftTrial.TellsFailure ∧ rightTrial.TellsFailure)
      ((sampleJournal.start Journal.gateway).database.trials Journal.gateway
        (failingSteps (sampleSteps [(none, none), (none, none), (none, none)])))
      ((sampleJournal.start Journal.gateway).database.trials Journal.gateway
        (failingSteps (sampleSteps [(some fullDisk, none), (none, some fullDisk), (none, none)]))) ∧
    ((sampleJournal.start Journal.gateway).database.trials Journal.gateway
        (failingSteps (sampleSteps
          [(some fullDisk, none), (none, some fullDisk), (none, none)]))).map (·.turn.result) =
      [.ok (.accepted (.inserted "T" (some "[Errno 28] No space left on device"))),
        .ok (.accepted (.deleted "T" 1 (some "[Errno 28] No space left on device"))),
        .ok (.accepted (.selected { sampleTable with name := none, rows := [[.integer 2]] }))] := by
  have loaded : (sampleJournal.start Journal.gateway).database.catalog = some ⟨[sampleTable]⟩ := by
    decide +kernel
  have sound : Catalog.Sound ⟨[sampleTable]⟩ :=
    Journal.loadsSound sampleJournal.storage _ (by decide +kernel)
  refine ⟨trials_agree_of_reportable _ _ sound loaded loaded (by decide)
    (failsReportably_of_journal (by simp [sampleSteps]) _)
    (failsReportably_of_journal (by simp [sampleSteps, fullDisk, WriteFault.reported?]) _), ?_⟩
  decide +kernel

end Engine
end FlatTables
