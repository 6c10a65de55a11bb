import FlatTables.Proofs.Engine.Attempt
import FlatTables.Proofs.Samples

/-!
# Statements always have results

If the rows of all tables conform to their schemas, the checks that are made before a statement is
carried out leave nothing else that could go wrong: it has an outcome or is rejected, whatever names
and literals it holds. A write that fails as storages and operating systems do is part of the
outcome. Since statements keep the rows conforming, a whole run is answered.
-/

namespace FlatTables

open Storage (Gateway WriteFault WriteReport)

namespace Storage

/-- The failure of a write is one of the storage or of the operating system. -/
inductive WriteFault.IsExpected : WriteFault → Prop
  | storage (fault : StorageFault) : IsExpected (.storage fault)
  | system (fault : SystemFault) : IsExpected (.system fault)

/-- Both kinds of write fail in expected ways only. -/
structure Gateway.FailsAsExpected {σ : Type} (gateway : Gateway σ) : Prop where
  append : ∀ table row storage fault,
    (gateway.append table row storage).result = .error fault → fault.IsExpected
  overwrite : ∀ table storage fault,
    (gateway.overwrite table storage).result = .error fault → fault.IsExpected

end Storage

namespace Engine

open Query (Statement)

variable {σ : Type}

namespace Execution

/-- A change whose write fails in expected ways only has an outcome. -/
theorem exists_outcome_of_ofWrite
    (operation : Telemetry.WriteOperation)
    (table : Table)
    (store : Store σ)
    {report : WriteReport σ}
    (expected : ∀ fault, report.result = .error fault → fault.IsExpected)
    (outcome : String → Option String → Outcome)
    (event : String → Bool → Telemetry.Event) :
    ∃ final, (ofWrite operation table store report outcome event).result = .ok final := by
  unfold ofWrite
  cases written : report.result with
  | ok state => exact ⟨_, rfl⟩
  | error fault =>
      cases expected fault written with
      | storage own => exact ⟨_, rfl⟩
      | system own => exact ⟨_, rfl⟩

section
variable
  {gateway : Gateway σ}
  (expected : gateway.FailsAsExpected)
include expected

/-- A plan that is carried out has an outcome. -/
theorem exists_outcome_of_ofPlan
    (store : Store σ)
    (plan : Plan) :
    ∃ outcome, (ofPlan gateway store plan).result = .ok outcome := by
  cases plan with
  | select result => exact ⟨_, rfl⟩
  | insert table row =>
      apply exists_outcome_of_ofWrite
      exact expected.append table row store.storage
  | delete table count =>
      apply exists_outcome_of_ofWrite
      exact expected.overwrite table store.storage

omit expected in
/-- A plan puts the changed table in place of the old one. -/
theorem conforming_of_ofPlan
    {store : Store σ}
    (conforming : store.catalog.Conforming)
    {plan : Plan}
    (changed : ∀ table, plan.changed? = some table → table.Conforming) :
    (ofPlan gateway store plan).store.catalog.Conforming := by
  cases plan with
  | select result => exact conforming
  | insert table row =>
      rw [ofPlan, (ofWrite_eq _ _ _ _ _ _ .insert).1]
      exact conforming.update (changed table rfl) _
  | delete table count =>
      rw [ofPlan, (ofWrite_eq _ _ _ _ _ _ .delete).1]
      exact conforming.update (changed table rfl) _

/-- A statement has an outcome or is rejected, and it keeps all rows conforming. -/
theorem outcome_or_rejected
    (store : Store σ)
    (conforming : store.catalog.Conforming)
    (statement : Statement) :
    ((∃ outcome, (ofStatement gateway store statement).result = .ok outcome) ∨
      ∃ rejection, (ofStatement gateway store statement).result = .error (.rejected rejection)) ∧
    (ofStatement gateway store statement).store.catalog.Conforming := by
  unfold ofStatement
  cases planned : Plan.ofStatement store.catalog statement with
  | error fault =>
      obtain ⟨rejection, rfl⟩ := Plan.rejecting_of_conforming conforming planned
      exact ⟨.inr ⟨rejection, rfl⟩, conforming⟩
  | ok plan =>
      constructor
      · exact .inl (exists_outcome_of_ofPlan expected store plan)
      · apply conforming_of_ofPlan conforming
        intro table changed
        exact (Plan.changed?_eq_some conforming planned changed).1

end

end Execution

section
variable
  {gateway : Gateway σ}
  (expected : gateway.FailsAsExpected)
include expected

/-- A started database answers a statement and stays started with conforming rows. -/
theorem execute_answers
    {database : Database σ}
    {catalog : Catalog}
    (loaded : database.catalog = some catalog)
    (conforming : catalog.Conforming)
    (sql : String) :
    (∃ reply, (database.execute gateway sql).result = .ok reply) ∧
      ∃ after, (database.execute gateway sql).database.catalog = some after ∧
        after.Conforming := by
  obtain ⟨storage, own, executed, failed, lastStatement⟩ := database
  obtain rfl : own = some catalog := loaded
  simp only [Database.execute, Database.answer]
  cases Statement.parse sql with
  | error rejection => exact ⟨⟨_, rfl⟩, catalog, rfl, conforming⟩
  | ok statement =>
      obtain ⟨result, held⟩ := carryOut_eq gateway
        ⟨storage, some catalog, executed, failed, lastStatement + 1⟩ catalog statement
      obtain ⟨ended, after⟩ :=
        Execution.outcome_or_rejected expected ⟨catalog, storage⟩ conforming statement
      refine ⟨?_, _, held.catalog_eq, after⟩
      simp only [result]
      rcases ended with ⟨outcome, done⟩ | ⟨rejection, refused⟩
      · simp only [done]
        exact ⟨_, rfl⟩
      · simp only [refused]
        exact ⟨_, rfl⟩

/-- A started database answers every statement of a run. -/
theorem executeMany_answers
    {database : Database σ}
    {catalog : Catalog}
    (loaded : database.catalog = some catalog)
    (conforming : catalog.Conforming)
    (sqls : List String) :
    ∃ replies, (database.executeMany gateway sqls).result = .ok replies ∧
      replies.length = sqls.length := by
  induction sqls generalizing database catalog with
  | nil => exact ⟨[], rfl, rfl⟩
  | cons sql rest inductionHypothesis =>
      obtain ⟨⟨reply, answered⟩, after, held, afterConforming⟩ :=
        execute_answers expected loaded conforming sql
      obtain ⟨others, answeredRest, lengths⟩ := inductionHypothesis held afterConforming
      refine ⟨reply :: others, ?_, by simp [lengths]⟩
      simp only [Database.executeMany, answered, answeredRest, Except.map]

/-- Over conforming rows and a gateway whose writes fail as storages and operating systems do, a
statement with any names and literals has an outcome or is rejected, and nothing else happens. A
started database answers every text of a run. -/
theorem only_rejections_escape
    {catalog : Catalog}
    (conforming : catalog.Conforming) :
    (∀ (storage : σ) (statement : Statement),
      (∃ outcome,
        (Execution.ofStatement gateway ⟨catalog, storage⟩ statement).result = .ok outcome) ∨
      ∃ rejection,
        (Execution.ofStatement gateway ⟨catalog, storage⟩ statement).result =
          .error (.rejected rejection)) ∧
    ∀ database : Database σ, database.catalog = some catalog →
      (∀ sql, ∃ reply, (database.execute gateway sql).result = .ok reply) ∧
      ∀ sqls, ∃ replies, (database.executeMany gateway sqls).result = .ok replies ∧
        replies.length = sqls.length := by
  refine ⟨?_, ?_⟩
  · intro storage statement
    exact (Execution.outcome_or_rejected expected ⟨catalog, storage⟩ conforming statement).1
  · intro database loaded
    constructor
    · intro sql
      exact (execute_answers expected loaded conforming sql).1
    · intro sqls
      exact executeMany_answers expected loaded conforming sqls

end

/-! ## A disk that runs full -/

/-- A write to a disk that runs full fails as expected. -/
theorem failsAsExpected_limitedGateway : limitedGateway.FailsAsExpected := by
  have full : fullDisk.IsExpected := .system _
  constructor
  · intro table row room fault failed
    simp only [limitedGateway] at failed
    split at failed
    · cases failed
      exact full
    · cases failed
  · intro table room fault failed
    simp only [limitedGateway] at failed
    split at failed
    · cases failed
      exact full
    · cases failed

/-- With room for one write, an insertion, a deletion that is not written and a statement that is
rejected are all answered. -/
theorem only_rejections_escape_full_disk :
    ∃ replies,
      (Database.executeMany limitedGateway { storage := 1, catalog := some ⟨[sampleTable]⟩ }
        ["INSERT INTO t (a) VALUES (2)", "DELETE FROM T WHERE a < 2", "DELETE FROM u"]).result =
          .ok replies ∧ replies.length = 3 := by
  have conforming : Catalog.Conforming ⟨[sampleTable]⟩ := by
    intro table member
    obtain rfl := List.mem_singleton.1 member
    intro row rowMember
    obtain rfl := List.mem_singleton.1 rowMember
    rfl
  exact ((only_rejections_escape failsAsExpected_limitedGateway conforming).2 _ rfl).2 _

end Engine
end FlatTables
