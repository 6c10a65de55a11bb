import FlatTables.Proofs.Engine.Attempt
import FlatTables.Proofs.Telemetry.Metrics

/-!
# Histories of a database

A new database is started, stopped and given statements in any order, while its storage changes from
outside. Every statement that is answered is counted once by the database and once by the metrics,
and what the metrics observe of it can be told from the answer alone. So the statistics, the metrics
and the answers agree at any time.
-/

namespace FlatTables
namespace Engine

open Query (Statement StatementType)
open Storage (Gateway WriteReport)
open Telemetry

variable {σ : Type}

/-! ## What is observed of an answer -/

/-- The write of an outcome that has failed, if there is one. -/
def Outcome.failedWrite? : Outcome → Option WriteOperation
  | .selected _ => none
  | .inserted _ failure => failure.map fun _ => .append
  | .deleted _ _ failure => failure.map fun _ => .overwrite

/-- What is observed while a statement with an outcome is carried out. -/
def Outcome.observed (outcome : Outcome) : List Observation :=
  outcome.failedWrite?.toList.map .writeFailure ++
    if outcome.affectedRows = 0 then []
    else [.rowsAffected outcome.type outcome.affectedRows]

/-- What is observed of a statement with an answer. -/
def Reply.observed : Reply → List Observation
  | .accepted outcome => outcome.observed ++ [.statement (.parsed outcome.type) true]
  | .rejected none _ => [.statement .unparsed false]
  | .rejected (some type) _ => [.statement (.parsed type) false]

/-- What is observed of a result: nothing if there is no answer. -/
def observedOf : Except Fault Reply → List Observation
  | .ok reply => reply.observed
  | .error _ => []

namespace Execution

/-- A change is observed as its outcome; a failure that is not reported is not observed. -/
theorem observations_ofWrite
    (operation : WriteOperation)
    (table : Table)
    (store : Store σ)
    (report : WriteReport σ)
    {outcome : String → Option String → Outcome}
    (failedWrite : ∀ name failure,
      (outcome name failure).failedWrite? = failure.map fun _ => operation)
    (event : String → Bool → Telemetry.Event) :
    observations (ofWrite operation table store report outcome event).signals =
      match (ofWrite operation table store report outcome event).result with
      | .ok final => final.observed
      | .error _ => [] := by
  have counted : ∀ final : Outcome, observations (countRows final) =
      if final.affectedRows = 0 then [] else [.rowsAffected final.type final.affectedRows] := by
    intro final
    unfold countRows
    split <;> rfl
  have noticed : ∀ own, observations [Signal.event own] = [] := fun _ => rfl
  have failed : ∀ name message,
      observations (failureSignals operation name message) = [.writeFailure operation] :=
    fun _ _ => rfl
  unfold ofWrite
  cases report.result with
  | ok state => simp [Outcome.observed, failedWrite, counted, noticed]
  | error fault =>
      cases reported : fault.reported? with
      | none => simp [reported]
      | some message => simp [reported, Outcome.observed, failedWrite, counted, noticed, failed]

/-- What is observed of a statement that is carried out depends on its outcome only. -/
theorem observations_ofStatement
    (gateway : Gateway σ)
    (store : Store σ)
    (statement : Statement) :
    observations (ofStatement gateway store statement).signals =
      match (ofStatement gateway store statement).result with
      | .ok final => final.observed
      | .error _ => [] := by
  unfold ofStatement
  cases Plan.ofStatement store.catalog statement with
  | error fault => rfl
  | ok plan =>
      cases plan with
      | select result =>
          simp only [ofPlan, countRows, Outcome.observed, Outcome.failedWrite?]
          split <;> rfl
      | insert table row => exact observations_ofWrite _ _ _ _ (fun _ _ => rfl) _
      | delete table deleted => exact observations_ofWrite _ _ _ _ (fun _ _ => rfl) _

end Execution

/-- A plan has an outcome of the type of its statement. -/
theorem Plan.outcome_type
    {catalog : Catalog}
    {statement : Statement}
    {plan : Plan}
    (planned : ofStatement catalog statement = .ok plan)
    (failure : Option String) :
    (plan.outcome failure).type = statement.type := by
  cases statement with
  | select columns name condition =>
      simp only [ofStatement, ofSelect, bind_eq_ok_iff, pure, Except.pure] at planned
      obtain ⟨_, _, _, _, _, _, _, _, _, _, _, _, _, _, _, _, equal⟩ := planned
      cases equal
      rfl
  | insert name attributes literals =>
      simp only [ofStatement, ofInsert, bind_eq_ok_iff, pure, Except.pure] at planned
      obtain ⟨_, _, _, _, _, _, _, _, _, _, equal⟩ := planned
      cases equal
      rfl
  | delete name condition =>
      simp only [ofStatement, ofDelete, bind_eq_ok_iff, pure, Except.pure] at planned
      obtain ⟨_, _, _, _, _, _, _, _, equal⟩ := planned
      cases equal
      rfl

/-- A plan that is carried out comes to its outcome if there is one. -/
theorem Execution.ofPlan_eq_ok
    {gateway : Gateway σ}
    {store : Store σ}
    {plan : Plan}
    {outcome : Outcome}
    (done : (ofPlan gateway store plan).result = .ok outcome) :
    ∃ failure, outcome = plan.outcome failure := by
  have ofWrite : ∀ (operation : WriteOperation) (table : Table) (report : WriteReport σ)
      (complete : String → Option String → Outcome) (event : String → Bool → Telemetry.Event),
      (ofWrite operation table store report complete event).result = .ok outcome →
        ∃ failure, outcome = complete (table.name.getD "") failure := by
    intro operation table report complete event written
    have concluded := (ofWrite_eq operation table store report complete event .select).2
    rw [written] at concluded
    obtain ⟨failure, same, _⟩ := conclude_eq_ok concluded.symm
    exact ⟨failure, Reply.accepted.inj same⟩
  cases plan with
  | select result => exact ⟨none, (Except.ok.inj done).symm⟩
  | insert table row => exact ofWrite _ _ _ _ _ done
  | delete table deleted => exact ofWrite _ _ _ _ _ done

namespace Database

variable (gateway : Gateway σ) (database : Database σ)

theorem observations_carryOut
    (catalog : Catalog)
    (statement : Statement) :
    observations (database.carryOut gateway catalog statement).signals =
      observedOf (database.carryOut gateway catalog statement).result := by
  have carried := Execution.observations_ofStatement gateway ⟨catalog, database.storage⟩ statement
  have closed : ∀ label reply, observations (closing label reply) =
      [.statement label reply.success] := fun _ _ => rfl
  unfold carryOut
  cases result : (Execution.ofStatement gateway ⟨catalog, database.storage⟩ statement).result with
  | ok outcome =>
      have type : outcome.type = statement.type := by
        unfold Execution.ofStatement at result
        cases planned : Plan.ofStatement catalog statement with
        | error fault => simp [planned] at result
        | ok plan =>
            simp only [planned] at result
            obtain ⟨failure, rfl⟩ := Execution.ofPlan_eq_ok result
            exact Plan.outcome_type planned failure
      rw [result] at carried
      simp only [result, replyTo, Telemetry.observations_append, Telemetry.observations_inSpan,
        carried, closed, type, observedOf, Reply.observed]
      rfl
  | error fault =>
      rw [result] at carried
      cases fault <;>
        simp only [result, replyTo, Telemetry.observations_append, Telemetry.observations_inSpan,
          carried, closed, observedOf, Reply.observed, List.nil_append]
      all_goals rfl

/-- What is observed of a statement can be told from its answer. -/
theorem observations_execute (sql : String) :
    observations (database.execute gateway sql).signals =
      observedOf (database.execute gateway sql).result := by
  unfold execute
  cases database.catalog with
  | none => rfl
  | some catalog =>
      simp only [Telemetry.observations_within]
      unfold answer
      cases Statement.parse sql with
      | error rejection => rfl
      | ok statement => exact observations_carryOut gateway _ catalog statement

/-- A statement is counted exactly if it is answered. -/
theorem counters_execute (sql : String) :
    (database.execute gateway sql).database.executed =
        database.executed + (database.execute gateway sql).result.toOption.toList.length ∧
      (database.execute gateway sql).database.failed =
        database.failed + (database.execute gateway sql).result.toOption.toList.countP
          (·.rejection?.isSome) := by
  have counted : ∀ (own : Database σ) (reply : Reply),
      (own.count reply).failed = own.failed + [reply].countP (·.rejection?.isSome) := by
    intro own reply
    cases reply <;> rfl
  unfold execute
  cases database.catalog with
  | none => exact ⟨rfl, rfl⟩
  | some catalog =>
      unfold answer
      cases Statement.parse sql with
      | error rejection => exact ⟨rfl, counted _ _⟩
      | ok statement =>
          dsimp only
          unfold carryOut
          dsimp only
          cases replyTo statement.type
              (Execution.ofStatement gateway ⟨catalog, database.storage⟩ statement).result with
          | ok reply => exact ⟨rfl, counted _ _⟩
          | error fault => exact ⟨rfl, rfl⟩

/-- A start is observed as a number of tables, if at all, and counts nothing. -/
theorem observations_start :
    ∃ loads : List Nat,
      observations (database.start gateway).signals = loads.map .tablesLoaded ∧
        (database.start gateway).database.executed = database.executed ∧
        (database.start gateway).database.failed = database.failed := by
  unfold start
  split
  · exact ⟨[], rfl, rfl, rfl⟩
  · dsimp only
    cases (gateway.load database.storage).result with
    | error fault => exact ⟨[], by simp, rfl, rfl⟩
    | ok catalog => exact ⟨[catalog.tables.length], by simp; rfl, rfl, rfl⟩

/-- So is a stop. -/
theorem observations_stop :
    ∃ loads : List Nat,
      observations database.stop.signals = loads.map .tablesLoaded ∧
        database.stop.database.executed = database.executed ∧
        database.stop.database.failed = database.failed := by
  unfold stop
  split
  · exact ⟨[0], rfl, rfl, rfl⟩
  · exact ⟨[], rfl, rfl, rfl⟩

end Database

/-! ## Histories -/

/-- A call of a database. -/
inductive Command
  | start
  | stop
  | execute (sql : String)

/-- A database that has been called a number of times, all that was observed, and the answers to the
statements that were answered. -/
structure History (σ : Type) where
  database : Database σ
  observed : List Observation
  replies : List Reply

namespace History

/-- A new database over a storage. -/
def new (storage : σ) : History σ where
  database := { storage }
  observed := []
  replies := []

/-- The history after one more call. -/
def call (gateway : Gateway σ) (history : History σ) : Command → History σ
  | .start =>
      let turn := history.database.start gateway
      { history with
        database := turn.database
        observed := history.observed ++ observations turn.signals }
  | .stop =>
      let turn := history.database.stop
      { history with
        database := turn.database
        observed := history.observed ++ observations turn.signals }
  | .execute sql =>
      let turn := history.database.execute gateway sql
      { database := turn.database
        observed := history.observed ++ observations turn.signals
        replies := history.replies ++ turn.result.toOption.toList }

/-- The history after a change of the storage from outside and one more call. -/
def next (gateway : Gateway σ) (history : History σ) (step : (σ → σ) × Command) : History σ :=
  { history with database := history.database.disturbed step.1 }.call gateway step.2

/-- The history after calls, each after a change of the storage from outside. -/
def after (gateway : Gateway σ) (history : History σ) (steps : List ((σ → σ) × Command)) :
    History σ :=
  steps.foldl (next gateway) history

/-- The sum of the samples with a name that have some labels, among others. -/
def total (history : History σ) (name : String) (labels : List (String × String)) : Nat :=
  Metrics.total (Metrics.samples history.observed) name labels

/-- The counter of the rows that statements of a type have returned or changed. -/
def rowsCounted (history : History σ) (type : StatementType) : Nat :=
  history.total "query_rows_affected_total" [("statement", type.name)]

/-- Everything that was counted or observed goes back to an answer, apart from how many tables were
loaded. -/
structure Balanced (history : History σ) : Prop where
  executed : history.database.executed = history.replies.length
  failed : history.database.failed = history.replies.countP (·.rejection?.isSome)
  observed : history.observed.filter (!·.isLoad) = history.replies.flatMap Reply.observed

theorem balanced_new (storage : σ) : (new storage).Balanced :=
  ⟨rfl, rfl, rfl⟩

/-- A call after which nothing but loaded tables was observed keeps the balance. -/
theorem Balanced.silent
    {history : History σ}
    (balanced : history.Balanced)
    {database : Database σ}
    (executed : database.executed = history.database.executed)
    (failed : database.failed = history.database.failed)
    (loads : List Nat) :
    Balanced
      { history with
        database
        observed := history.observed ++ loads.map .tablesLoaded } := by
  refine ⟨executed.trans balanced.executed, failed.trans balanced.failed, ?_⟩
  have none : (loads.map Observation.tablesLoaded).filter (!·.isLoad) = [] := by
    simp [List.filter_eq_nil_iff, Observation.isLoad]
  rw [List.filter_append, balanced.observed, none, List.append_nil]

/-- An answer is never observed as a number of loaded tables. -/
theorem isLoad_of_observed
    {reply : Reply}
    {observation : Observation}
    (member : observation ∈ reply.observed) :
    observation.isLoad = false := by
  cases reply with
  | rejected type rejection =>
      cases type <;> obtain rfl := List.mem_singleton.1 member <;> rfl
  | accepted outcome =>
      rcases List.mem_append.1 member with carried | counted
      · rcases List.mem_append.1 carried with failed | rows
        · obtain ⟨operation, _, rfl⟩ := List.mem_map.1 failed
          rfl
        · split at rows
          · cases rows
          · obtain rfl := List.mem_singleton.1 rows
            rfl
      · obtain rfl := List.mem_singleton.1 counted
        rfl

/-- Every call keeps the balance. -/
theorem Balanced.next
    {history : History σ}
    (balanced : history.Balanced)
    (gateway : Gateway σ)
    (step : (σ → σ) × Command) :
    (history.next gateway step).Balanced := by
  obtain ⟨change, command⟩ := step
  cases command with
  | start =>
      obtain ⟨loads, observed, executed, failed⟩ :=
        Database.observations_start gateway (history.database.disturbed change)
      unfold History.next call
      simp only [observed]
      exact balanced.silent executed failed loads
  | stop =>
      obtain ⟨loads, observed, executed, failed⟩ :=
        Database.observations_stop (history.database.disturbed change)
      unfold History.next call
      simp only [observed]
      exact balanced.silent executed failed loads
  | execute sql =>
      obtain ⟨executed, failed⟩ :=
        Database.counters_execute gateway (history.database.disturbed change) sql
      have observed :=
        Database.observations_execute gateway (history.database.disturbed change) sql
      unfold History.next call
      refine ⟨?_, ?_, ?_⟩
      · exact executed.trans (by rw [List.length_append, ← balanced.executed]; rfl)
      · exact failed.trans (by rw [List.countP_append, ← balanced.failed]; rfl)
      · dsimp only
        rw [List.filter_append, balanced.observed, observed, List.flatMap_append]
        congr 1
        cases ((history.database.disturbed change).execute gateway sql).result with
        | error fault => rfl
        | ok reply =>
            have all : reply.observed.filter (!·.isLoad) = reply.observed := by
              rw [List.filter_eq_self]
              exact fun observation member => by rw [isLoad_of_observed member]; rfl
            simpa [observedOf, Except.toOption] using all

theorem Balanced.after
    {history : History σ}
    (balanced : history.Balanced)
    (gateway : Gateway σ)
    (steps : List ((σ → σ) × Command)) :
    (history.after gateway steps).Balanced := by
  induction steps generalizing history with
  | nil => exact balanced
  | cons step rest inductionHypothesis => exact inductionHypothesis (balanced.next gateway step)

/-! ## Statistics, metrics and answers -/

end History

/-- The answer is an accepted statement of a type. -/
def Reply.accepts (type : StatementType) (reply : Reply) : Bool :=
  reply.success && reply.type? == some type

/-- The type of statements whose changes are written by an operation. -/
def writtenBy : WriteOperation → StatementType
  | .append => .insert
  | .overwrite => .delete

/-- An answer is observed as one statement. -/
theorem countP_observed
    (reply : Reply)
    (success : Bool) :
    reply.observed.countP (Observation.isStatement success) =
      if reply.success == success then 1 else 0 := by
  have uncounted : ∀ outcome : Outcome,
      outcome.observed.countP (Observation.isStatement success) = 0 := by
    intro outcome
    rw [List.countP_eq_zero]
    intro observation member
    rcases List.mem_append.1 member with failed | rows
    · obtain ⟨operation, _, rfl⟩ := List.mem_map.1 failed
      exact Bool.false_ne_true
    · split at rows
      · cases rows
      · obtain rfl := List.mem_singleton.1 rows
        exact Bool.false_ne_true
  cases reply with
  | accepted outcome =>
      rw [Reply.observed, List.countP_append, uncounted]
      cases success <;> rfl
  | rejected type rejection => cases type <;> cases success <;> rfl

/-- The rows observed of an answer are those it tells of. -/
theorem rowsAffected_observed
    (reply : Reply)
    (type : StatementType) :
    Metrics.rowsAffected reply.observed type =
      if reply.accepts type then reply.affectedRows else 0 := by
  cases reply with
  | rejected own rejection =>
      cases own <;> rfl
  | accepted outcome =>
      have unaffected : ∀ failed : List WriteOperation,
          Metrics.rowsAffected (failed.map .writeFailure) type = 0 := by
        intro failed
        induction failed with
        | nil => rfl
        | cons own rest inductionHypothesis =>
            rw [List.map_cons, Metrics.rowsAffected_cons, inductionHypothesis]
            rfl
      have closing : Metrics.rowsAffected [.statement (.parsed outcome.type) true] type = 0 := rfl
      rw [Reply.observed, Outcome.observed, Metrics.rowsAffected_append,
        Metrics.rowsAffected_append, unaffected, closing, Nat.zero_add, Nat.add_zero]
      by_cases zero : outcome.affectedRows = 0
      · rw [if_pos zero]
        simp [Reply.affectedRows, zero, Metrics.rowsAffected]
      · rw [if_neg zero]
        by_cases same : outcome.type = type <;>
          simp [Metrics.rowsAffected, Reply.accepts, Reply.success, Reply.type?,
            Reply.affectedRows, Reply.rejection?, same]

/-- A failed write is observed of an answer exactly if the answer tells of it. -/
theorem writeFailures_observed
    (reply : Reply)
    (operation : WriteOperation) :
    Metrics.writeFailures reply.observed operation =
      if reply.accepts (writtenBy operation) && !reply.persisted then 1 else 0 := by
  cases reply with
  | rejected own rejection =>
      cases own <;> rfl
  | accepted outcome =>
      have uncounted : Metrics.writeFailures
          (if outcome.affectedRows = 0 then []
            else [.rowsAffected outcome.type outcome.affectedRows]) operation = 0 := by
        split <;> rfl
      have closing :
          Metrics.writeFailures [.statement (.parsed outcome.type) true] operation = 0 := rfl
      rw [Reply.observed, Outcome.observed, Metrics.writeFailures_append,
        Metrics.writeFailures_append, uncounted, closing]
      rcases outcome with result | ⟨name, _ | failure⟩ | ⟨name, count, _ | failure⟩ <;>
        cases operation <;> rfl

namespace History

/-- The statistics, the metrics and the answers of a history tell the same. -/
structure Agrees (history : History σ) : Prop where
  executed : history.database.statistics.executed = history.replies.length
  statements : history.total "query_statements_total" [] = history.replies.length
  failed : history.database.statistics.failed = history.replies.countP (·.rejection?.isSome)
  rejections : history.total "query_statements_total" [("status", "error")] =
    history.replies.countP (·.rejection?.isSome)
  rows : ∀ type, history.rowsCounted type =
    ((history.replies.filter (·.accepts type)).map Reply.affectedRows).sum
  appendFailures : history.total "query_persistence_failures_total" [("operation", "append")] =
    history.replies.countP fun reply => reply.accepts .insert && !reply.persisted
  overwriteFailures : history.total "query_persistence_failures_total" [("operation", "rewrite")] =
    history.replies.countP fun reply => reply.accepts .delete && !reply.persisted

theorem Balanced.countP_statements
    {history : History σ}
    (balanced : history.Balanced)
    (success : Bool) :
    history.observed.countP (Observation.isStatement success) =
      history.replies.countP (·.success == success) := by
  have unloaded : history.observed.countP (Observation.isStatement success) =
      (history.observed.filter (!·.isLoad)).countP (Observation.isStatement success) := by
    rw [List.countP_filter]
    refine List.countP_congr fun observation _ => ?_
    cases observation <;> simp [Observation.isStatement, Observation.isLoad]
  rw [unloaded, balanced.observed]
  clear unloaded balanced
  induction history.replies with
  | nil => rfl
  | cons reply rest inductionHypothesis =>
      rw [List.flatMap_cons, List.countP_append, countP_observed, inductionHypothesis,
        List.countP_cons, Nat.add_comm]

theorem Balanced.rowsAffected
    {history : History σ}
    (balanced : history.Balanced)
    (type : StatementType) :
    Metrics.rowsAffected history.observed type =
      ((history.replies.filter (·.accepts type)).map Reply.affectedRows).sum := by
  have unloaded : Metrics.rowsAffected history.observed type =
      Metrics.rowsAffected (history.observed.filter (!·.isLoad)) type := by
    clear balanced
    induction history.observed with
    | nil => rfl
    | cons first rest inductionHypothesis =>
        rw [Metrics.rowsAffected_cons, inductionHypothesis]
        cases first <;> simp [Observation.isLoad, Metrics.rowsAffected]
  rw [unloaded, balanced.observed]
  clear unloaded balanced
  induction history.replies with
  | nil => rfl
  | cons reply rest inductionHypothesis =>
      rw [List.flatMap_cons, Metrics.rowsAffected_append, rowsAffected_observed,
        inductionHypothesis]
      by_cases accepted : reply.accepts type <;> simp [accepted]

theorem Balanced.writeFailures
    {history : History σ}
    (balanced : history.Balanced)
    (operation : WriteOperation) :
    Metrics.writeFailures history.observed operation =
      history.replies.countP fun reply =>
        reply.accepts (writtenBy operation) && !reply.persisted := by
  have unloaded : Metrics.writeFailures history.observed operation =
      Metrics.writeFailures (history.observed.filter (!·.isLoad)) operation := by
    rw [Metrics.writeFailures, Metrics.writeFailures, List.countP_filter]
    refine List.countP_congr fun observation _ => ?_
    cases observation <;> simp [Observation.isLoad]
  rw [unloaded, balanced.observed]
  clear unloaded balanced
  induction history.replies with
  | nil => rfl
  | cons reply rest inductionHypothesis =>
      rw [List.flatMap_cons, Metrics.writeFailures_append, writeFailures_observed,
        inductionHypothesis, List.countP_cons, Nat.add_comm]

/-- In a balance, everything agrees. -/
theorem Balanced.agrees
    {history : History σ}
    (balanced : history.Balanced) :
    history.Agrees := by
  have rejected : history.replies.countP (·.success == false) =
      history.replies.countP (·.rejection?.isSome) := by
    refine List.countP_congr fun reply _ => ?_
    cases reply <;> simp [Reply.success, Reply.rejection?]
  have answered : history.replies.countP (·.success == false) +
      history.replies.countP (·.success == true) = history.replies.length := by
    rw [List.length_eq_countP_add_countP (·.success == false)]
    congr 1
    refine List.countP_congr fun reply _ => ?_
    cases reply.success <;> simp
  refine ⟨balanced.executed, ?_, balanced.failed, ?_, ?_, ?_, ?_⟩
  · rw [total, Metrics.total_statements, balanced.countP_statements, balanced.countP_statements,
      answered]
  · rw [total, Metrics.total_rejections, balanced.countP_statements, rejected]
  · intro type
    rw [rowsCounted, total, Metrics.total_rowsAffected, balanced.rowsAffected]
  · exact (Metrics.total_writeFailures _ .append).trans (balanced.writeFailures .append)
  · exact (Metrics.total_writeFailures _ .overwrite).trans (balanced.writeFailures .overwrite)

end History

end Engine
end FlatTables
