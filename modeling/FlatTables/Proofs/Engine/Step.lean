import FlatTables.Engine.Database
import FlatTables.Proofs.Engine.Plan
import FlatTables.Storage.Journal

/-!
# Steps and runs

One statement either leaves the tables and the storage as they are, or replaces one table and hands
the change to the gateway. A run is a sequence of answered statements. Whatever is to hold of a run
is shown of a single step and carried over by induction on the run.
-/

namespace FlatTables
namespace Engine

open Query (Statement StatementType)
open Storage (Gateway Journal WriteReport)

variable {σ : Type}

/-- The database is started with the tables and the storage of a store. -/
structure Database.Holds (database : Database σ) (store : Store σ) : Prop where
  catalog_eq : database.catalog = some store.catalog
  storage_eq : database.storage = store.storage

/-- The answer to a change that was handed to the gateway. Only a failure that is not reported
leaves the statement without an answer. -/
def conclude (outcome : Option String → Outcome) (report : WriteReport σ) : Except Fault Reply :=
  match report.result with
  | .ok _ => .ok (.accepted (outcome none))
  | .error fault =>
      match fault.reported? with
      | some message => .ok (.accepted (outcome (some message)))
      | none => .error fault.toFault

/-- What the text of a statement comes to in a store: the result and the store after it. -/
inductive Step (gateway : Gateway σ) (before : Store σ) (sql : String) :
    Except Fault Reply → Store σ → Prop
  | unread {rejection : Rejection}
      (parsed : Statement.parse sql = .error rejection) :
      Step gateway before sql (.ok (.rejected none rejection)) before
  | refused {statement : Statement} {fault : Fault}
      (parsed : Statement.parse sql = .ok statement)
      (unplanned : Plan.ofStatement before.catalog statement = .error fault) :
      Step gateway before sql (Database.replyTo statement.type (.error fault)) before
  | selected {statement : Statement} {result : Table}
      (parsed : Statement.parse sql = .ok statement)
      (planned : Plan.ofStatement before.catalog statement = .ok (.select result)) :
      Step gateway before sql (.ok (.accepted (.selected result))) before
  | inserted {statement : Statement} {table : Table} {row : Row}
      (parsed : Statement.parse sql = .ok statement)
      (planned : Plan.ofStatement before.catalog statement = .ok (.insert table row)) :
      Step gateway before sql
        (conclude (.inserted (table.name.getD "")) (gateway.append table row before.storage))
        ⟨before.catalog.update (table.name.getD "") table,
          (gateway.append table row before.storage).state before.storage⟩
  | deleted {statement : Statement} {table : Table} {count : Nat}
      (parsed : Statement.parse sql = .ok statement)
      (planned : Plan.ofStatement before.catalog statement = .ok (.delete table count)) :
      Step gateway before sql
        (conclude (.deleted (table.name.getD "") count) (gateway.overwrite table before.storage))
        ⟨before.catalog.update (table.name.getD "") table,
          (gateway.overwrite table before.storage).state before.storage⟩

/-- Statements answered one after the other. -/
inductive Run (gateway : Gateway σ) : Store σ → List (String × Reply) → Store σ → Prop
  | nil (store : Store σ) :
      Run gateway store [] store
  | cons {before middle after : Store σ} {sql : String} {reply : Reply}
      {rest : List (String × Reply)}
      (step : Step gateway before sql (.ok reply) middle)
      (run : Run gateway middle rest after) :
      Run gateway before ((sql, reply) :: rest) after

/-! ## The engine takes steps -/

theorem ofWrite_eq
    (operation : Telemetry.WriteOperation)
    (table : Table)
    (store : Store σ)
    (report : WriteReport σ)
    (outcome : String → Option String → Outcome)
    (event : String → Bool → Telemetry.Event)
    (type : StatementType) :
    (Execution.ofWrite operation table store report outcome event).store =
        ⟨store.catalog.update (table.name.getD "") table, report.state store.storage⟩ ∧
      Database.replyTo type
          (Execution.ofWrite operation table store report outcome event).result =
        conclude (outcome (table.name.getD "")) report := by
  unfold Execution.ofWrite conclude
  cases report.result with
  | ok state => exact ⟨rfl, rfl⟩
  | error fault =>
      cases fault with
      | storage fault => exact ⟨rfl, rfl⟩
      | system fault => exact ⟨rfl, rfl⟩
      | nullCharacter => exact ⟨rfl, rfl⟩
      | oversizedInteger => exact ⟨rfl, rfl⟩

/-- What the change of one table comes to: the name leads to the new table, every other name leads
where it led before, and one write decides on the storage and on the answer. -/
structure Changes (before : Store σ) (name : String) (after : Table) (type : StatementType)
    (outcome : Option String → Outcome) (report : WriteReport σ) (run : Execution σ) : Prop where
  tables : ∀ other, run.store.catalog.find? other =
    if Text.fold other = Text.fold name then some after else before.catalog.find? other
  storage : run.store.storage = report.state before.storage
  answer : Database.replyTo type run.result = conclude outcome report

/-- A new version of a table under its own name changes nothing but this table. -/
theorem Changes.of_update
    {before : Store σ}
    {name : String}
    {table after : Table}
    (found : before.catalog.find? name = some table)
    (sameName : after.name = table.name)
    {type : StatementType}
    {outcome : Option String → Outcome}
    {report : WriteReport σ}
    {run : Execution σ}
    (stored : run.store =
      ⟨before.catalog.update (after.name.getD "") after, report.state before.storage⟩)
    (answer : Database.replyTo type run.result = conclude outcome report) :
    Changes before name after type outcome report run where
  tables other := by
    rw [stored]
    exact Catalog.find?_update found sameName other
  storage := congrArg Store.storage stored
  answer := answer

theorem carryOut_eq
    (gateway : Gateway σ)
    (database : Database σ)
    (catalog : Catalog)
    (statement : Statement) :
    (Database.carryOut gateway database catalog statement).result =
        Database.replyTo statement.type
          (Execution.ofStatement gateway ⟨catalog, database.storage⟩ statement).result ∧
      (Database.carryOut gateway database catalog statement).database.Holds
        (Execution.ofStatement gateway ⟨catalog, database.storage⟩ statement).store := by
  simp only [Database.carryOut]
  cases Database.replyTo statement.type
      (Execution.ofStatement gateway ⟨catalog, database.storage⟩ statement).result with
  | ok reply => exact ⟨rfl, ⟨rfl, rfl⟩⟩
  | error fault => exact ⟨rfl, ⟨rfl, rfl⟩⟩

/-- Executing a statement is a step. -/
theorem step_execute
    (gateway : Gateway σ)
    {database : Database σ}
    {before : Store σ}
    (holds : database.Holds before)
    (sql : String) :
    ∃ after, (Database.execute gateway database sql).database.Holds after ∧
      Step gateway before sql (Database.execute gateway database sql).result after := by
  obtain ⟨storage, loaded, executed, failed, lastStatement⟩ := database
  obtain ⟨rfl, rfl⟩ := holds
  simp only [Database.execute, Database.answer]
  cases parsed : Statement.parse sql with
  | error rejection => exact ⟨before, ⟨rfl, rfl⟩, .unread parsed⟩
  | ok statement =>
      obtain ⟨result, held⟩ := carryOut_eq gateway
        ⟨before.storage, some before.catalog, executed, failed, lastStatement + 1⟩
        before.catalog statement
      refine ⟨_, held, ?_⟩
      simp only [result, Execution.ofStatement]
      cases planned : Plan.ofStatement before.catalog statement with
      | error fault => exact .refused parsed planned
      | ok plan =>
          cases plan with
          | select table => exact .selected parsed planned
          | insert table row =>
              simp only [Execution.ofPlan]
              obtain ⟨store, reply⟩ := ofWrite_eq .append table before
                (gateway.append table row before.storage) .inserted .rowInserted statement.type
              rw [store, reply]
              exact .inserted parsed planned
          | delete table count =>
              simp only [Execution.ofPlan]
              obtain ⟨store, reply⟩ := ofWrite_eq .overwrite table before
                (gateway.overwrite table before.storage) (fun name => .deleted name count)
                (fun name => .rowsDeleted name count) statement.type
              rw [store, reply]
              exact .deleted parsed planned

/-- A start that succeeds leaves the database with the tables its gateway has loaded. -/
theorem holds_start
    {gateway : Gateway σ}
    {database : Database σ}
    (started : (database.start gateway).result = .ok ()) :
    ∃ catalog, (gateway.load database.storage).result = .ok catalog ∧
      (database.start gateway).database.Holds ⟨catalog, database.storage⟩ := by
  unfold Database.start at started ⊢
  by_cases running : database.isStarted = true
  · simp [running, Database.refuse] at started
  · simp only [if_neg running] at started ⊢
    cases loaded : (gateway.load database.storage).result with
    | error fault => simp [loaded] at started
    | ok catalog => exact ⟨catalog, rfl, ⟨rfl, rfl⟩⟩

/-- A database can be started exactly if it is not started and its tables can be loaded. -/
theorem start_eq_ok_iff
    (gateway : Gateway σ)
    (database : Database σ) :
    (database.start gateway).result = .ok () ↔
      database.catalog = none ∧
        ∃ catalog, (gateway.load database.storage).result = .ok catalog := by
  unfold Database.start Database.isStarted
  cases database.catalog with
  | some catalog => simp [Database.refuse]
  | none => cases loaded : (gateway.load database.storage).result <;> simp [loaded]

/-- A database that is not started fails to start for the reason its tables cannot be loaded. -/
theorem start_eq_error_iff
    (gateway : Gateway σ)
    {database : Database σ}
    (stopped : database.catalog = none)
    (fault : Fault) :
    (database.start gateway).result = .error fault ↔
      (gateway.load database.storage).result = .error fault := by
  unfold Database.start Database.isStarted
  cases loaded : (gateway.load database.storage).result <;> simp [stopped, loaded]

/-- A statement that is answered stands in front of the others. -/
theorem executeMany_of_answered
    {gateway : Gateway σ}
    {database : Database σ}
    {sql : String}
    {reply : Reply}
    (answered : (database.execute gateway sql).result = .ok reply)
    (rest : List String) :
    (database.executeMany gateway (sql :: rest)).result =
        ((database.execute gateway sql).database.executeMany gateway rest).result.map
          (reply :: ·) ∧
      (database.executeMany gateway (sql :: rest)).database =
        ((database.execute gateway sql).database.executeMany gateway rest).database := by
  simp [Database.executeMany, answered]

/-- A statement that is not answered keeps the others from being executed. -/
theorem executeMany_of_unanswered
    {gateway : Gateway σ}
    {database : Database σ}
    {sql : String}
    {fault : Fault}
    (unanswered : (database.execute gateway sql).result = .error fault)
    (rest : List String) :
    (database.executeMany gateway (sql :: rest)).result = .error fault ∧
      (database.executeMany gateway (sql :: rest)).database =
        (database.execute gateway sql).database := by
  simp [Database.executeMany, unanswered]

/-- Statements that are all answered make up a run. -/
theorem run_executeMany
    (gateway : Gateway σ)
    {database : Database σ}
    {before : Store σ}
    (holds : database.Holds before)
    {sqls : List String}
    {replies : List Reply}
    (answered : (Database.executeMany gateway database sqls).result = .ok replies) :
    ∃ after, (Database.executeMany gateway database sqls).database.Holds after ∧
      sqls.length = replies.length ∧ Run gateway before (sqls.zip replies) after := by
  induction sqls generalizing database before replies with
  | nil =>
      cases answered
      exact ⟨before, holds, rfl, .nil before⟩
  | cons sql rest inductionHypothesis =>
      obtain ⟨middle, held, step⟩ := step_execute gateway holds sql
      simp only [Database.executeMany] at answered ⊢
      cases first : (Database.execute gateway database sql).result with
      | error fault => simp [first] at answered
      | ok reply =>
          simp only [first, map_eq_ok_iff] at answered ⊢
          obtain ⟨others, answeredRest, rfl⟩ := answered
          obtain ⟨after, heldAfter, lengths, run⟩ := inductionHypothesis held answeredRest
          exact ⟨after, heldAfter, by simpa using lengths, .cons (first ▸ step) run⟩

/-! ## Steps that change nothing -/

/-- A change that is answered is accepted, and it is persisted exactly if its write succeeded. -/
theorem conclude_eq_ok
    {outcome : Option String → Outcome}
    {report : WriteReport σ}
    {reply : Reply}
    (answered : conclude outcome report = .ok reply) :
    ∃ failure, reply = .accepted (outcome failure) ∧
      (failure = none ↔ ∃ state, report.result = .ok state) := by
  unfold conclude at answered
  cases written : report.result with
  | ok state =>
      simp only [written, Except.ok.injEq] at answered
      exact ⟨none, answered.symm, by simp⟩
  | error fault =>
      cases reported : fault.reported? with
      | none => simp [written, reported] at answered
      | some message =>
          simp only [written, reported, Except.ok.injEq] at answered
          exact ⟨some message, answered.symm, by simp⟩

/-! ## Steps on sound catalogs -/

/-- What a step comes to if the catalog is sound. -/
inductive Effect (gateway : Gateway σ) (before : Store σ) (sql : String) :
    Except Fault Reply → Store σ → Prop
  | rejected (type : Option StatementType) (rejection : Rejection) :
      Effect gateway before sql (.ok (.rejected type rejection)) before
  | selected {columns : Query.Columns} {name : String} {condition : Option Condition}
      {source : Table} {schema : Schema}
      (parsed : Statement.parse sql = .ok (.select columns name condition))
      (found : before.catalog.find? name = some source)
      (names : schema.names = Plan.listed source.schema columns)
      (attributes : schema.attributes =
        (Plan.listed source.schema columns).filterMap source.schema.attribute?) :
      Effect gateway before sql
        (.ok (.accepted (.selected
          { name := none
            schema
            rows := (source.rows.filter (Plan.selects condition source.schema)).map fun row =>
              row.valuesOf source.schema (Plan.listed source.schema columns) })))
        before
  | inserted {name : String} {attributes literals : List String} {table : Table} {row : Row}
      (parsed : Statement.parse sql = .ok (.insert name attributes literals))
      (found : before.catalog.find? name = some table)
      (coerced : Literal.coerceAll table.schema.attributes literals = .ok row)
      (conforms : row.Conforms table.schema)
      (storable : row.Storable)
      (report : WriteReport σ)
      (written : report =
        gateway.append { table with rows := table.rows ++ [row] } row before.storage) :
      Effect gateway before sql (conclude (.inserted (table.name.getD "")) report)
        ⟨before.catalog.edit name (· ++ [row]), report.state before.storage⟩
  | deleted {name : String} {condition : Option Condition} {table : Table} {count : Nat}
      (parsed : Statement.parse sql = .ok (.delete name condition))
      (found : before.catalog.find? name = some table)
      (report : WriteReport σ)
      (written : report =
        gateway.overwrite
          { table with rows := table.rows.filter (!Plan.selects condition table.schema ·) }
          before.storage) :
      Effect gateway before sql (conclude (.deleted (table.name.getD "") count) report)
        ⟨before.catalog.edit name (·.filter (!Plan.selects condition table.schema ·)),
          report.state before.storage⟩

/-- On a sound catalog no step is refused by another fault than a rejection, and every plan is
one of the three the statements describe. -/
theorem Step.effect
    {gateway : Gateway σ}
    {before after : Store σ}
    {sql : String}
    {result : Except Fault Reply}
    (step : Step gateway before sql result after)
    (sound : before.catalog.Sound) :
    Effect gateway before sql result after := by
  cases step with
  | unread parsed => exact .rejected none _
  | refused parsed unplanned =>
      obtain ⟨rejection, rfl⟩ := Plan.rejecting_of_ofStatement sound unplanned
      exact .rejected _ rejection
  | selected parsed planned =>
      rename_i statement result
      cases statement with
      | select columns name condition =>
          obtain ⟨source, schema, found, names, attributes, equal⟩ :=
            Plan.ofSelect_eq_ok sound planned
          cases equal
          exact .selected parsed found names attributes
      | insert name attributes literals =>
          obtain ⟨_, _, _, _, _, _, impossible⟩ := Plan.ofInsert_eq_ok sound planned
          cases impossible
      | delete name condition =>
          obtain ⟨_, _, impossible⟩ := Plan.ofDelete_eq_ok sound planned
          cases impossible
  | inserted parsed planned =>
      rename_i statement table row
      cases statement with
      | select columns name condition =>
          obtain ⟨_, _, _, _, _, impossible⟩ := Plan.ofSelect_eq_ok sound planned
          cases impossible
      | insert name attributes literals =>
          obtain ⟨old, row, found, coerced, conforms, storable, equal⟩ :=
            Plan.ofInsert_eq_ok sound planned
          cases equal
          rw [sound.update_eq_edit found (· ++ [row])]
          exact .inserted parsed found coerced conforms storable _ rfl
      | delete name condition =>
          obtain ⟨_, _, impossible⟩ := Plan.ofDelete_eq_ok sound planned
          cases impossible
  | deleted parsed planned =>
      rename_i statement table count
      cases statement with
      | select columns name condition =>
          obtain ⟨_, _, _, _, _, impossible⟩ := Plan.ofSelect_eq_ok sound planned
          cases impossible
      | insert name attributes literals =>
          obtain ⟨_, _, _, _, _, _, impossible⟩ := Plan.ofInsert_eq_ok sound planned
          cases impossible
      | delete name condition =>
          obtain ⟨old, found, equal⟩ := Plan.ofDelete_eq_ok sound planned
          cases equal
          rw [sound.update_eq_edit found (·.filter (!Plan.selects condition old.schema ·))]
          exact .deleted parsed found _ rfl

/-- A step keeps the catalog sound. -/
theorem Effect.sound
    {gateway : Gateway σ}
    {before after : Store σ}
    {sql : String}
    {result : Except Fault Reply}
    (effect : Effect gateway before sql result after)
    (sound : before.catalog.Sound) :
    after.catalog.Sound := by
  cases effect with
  | rejected type rejection => exact sound
  | selected parsed found names attributes => exact sound
  | inserted parsed found coerced conforms storable report written =>
      rename_i name attributes literals table row
      change (before.catalog.edit name (· ++ [row])).Sound
      apply Catalog.Sound.edit sound
      intro table member called row inserted
      obtain rfl := sound.eq_of_isCalled found member called
      rcases List.mem_append.1 inserted with old | new
      · exact sound.conforming table member row old
      · exact List.mem_singleton.1 new ▸ conforms
  | deleted parsed found report written =>
      refine sound.edit fun table member called row retained => ?_
      exact sound.conforming table member row (List.mem_filter.1 retained).1

end Engine
end FlatTables
