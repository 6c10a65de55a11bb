import FlatTables.Proofs.Engine.Course
import FlatTables.Proofs.Engine.Lifecycle
import FlatTables.Proofs.Samples
import FlatTables.Proofs.Update

/-!
# Rejected statements change nothing

What the steps of a statement come to, one after the other, is what a database executes at once. The
plan of a statement is made by the steps that only read, so no step that comes after the change of a
table can fail but the write. Hence what is known of the steps is known of every reachable database.
-/

namespace FlatTables
namespace Engine

open Query (Columns Statement)
open Storage (Gateway Journal WriteReport)
open Telemetry (Event Signal WriteOperation)

variable {σ α : Type}

/-! ## What the steps come to -/

/-- What is left of a database when a statement has been carried out at once. -/
def Ongoing.after (now : Ongoing σ) (run : Execution σ) : Ongoing σ :=
  { now with
    database :=
      { now.database with
        storage := run.store.storage
        catalog := some run.store.catalog }
    signals := now.signals ++ run.signals.map (Course.placed now.context) }

namespace Course

/-- Completing the change of a table comes to what its write comes to. -/
theorem perform_complete
    (operation : WriteOperation)
    (table : Table)
    (write : σ → WriteReport σ)
    (outcome : String → Option String → Outcome)
    (event : String → Bool → Event)
    {now : Ongoing σ}
    {catalog : Catalog}
    (updated : now.database.catalog = some (catalog.update (table.name.getD "") table)) :
    (complete operation table write outcome event).perform now =
      let run := Execution.ofWrite operation table ⟨catalog, now.database.storage⟩
        (write now.database.storage) outcome event
      (run.result, now.after run) := by
  obtain ⟨⟨storage, loaded, executed, failed, lastStatement⟩, context, signals⟩ := now
  obtain rfl := updated
  simp only [complete, persist, perform_bind, perform_get, perform_alter, perform_emit]
  unfold Execution.ofWrite
  cases (write storage).result with
  | ok state => simp [Ongoing.after, giving]
  | error fault =>
      dsimp only
      cases fault.reported? with
      | none => simp [Ongoing.after, giving]
      | some message => simp [Ongoing.after, giving, Except.map]

/-- What carrying out a plan comes to that may have been made of the tables of a database. -/
def planned (gateway : Gateway σ) (catalog : Catalog) (now : Ongoing σ) :
    Except Fault Plan → Except Fault Outcome × Ongoing σ
  | .error fault => (.error fault, now)
  | .ok plan =>
      let run := Execution.ofPlan gateway ⟨catalog, now.database.storage⟩ plan
      (run.result, now.after run)

/-- With the tables of a catalog, the steps come to what carrying out a plan comes to. -/
def Carries (gateway : Gateway σ) (catalog : Catalog) (course : Course σ Outcome)
    (plan : Except Fault Plan) : Prop :=
  ∀ now : Ongoing σ, now.database.catalog = some catalog →
    course.perform now = planned gateway catalog now plan

section
variable
  {gateway : Gateway σ}
  {catalog : Catalog}

/-- A step that only checks is a step of planning. -/
theorem Carries.check
    {step : Except Fault α}
    {next : α → Course σ Outcome}
    {plan : α → Except Fault Plan}
    (later : ∀ result, step = .ok result → Carries gateway catalog (next result) (plan result)) :
    Carries gateway catalog (liftExcept step >>= next) (step >>= plan) := by
  intro now loaded
  rw [perform_bind, perform_liftExcept]
  cases step with
  | error fault => rfl
  | ok result => exact later result rfl now loaded

theorem Carries.resolve
    {name : String}
    {next : Table → Course σ Outcome}
    {plan : Table → Except Fault Plan}
    (later : ∀ table, catalog.find? name = some table →
      Carries gateway catalog (next table) (plan table)) :
    Carries gateway catalog (Course.resolve name >>= next)
      (Plan.orReject (catalog.resolve name) >>= plan) := by
  intro now loaded
  have found : (Course.resolve name : Course σ Table).perform now =
      (Plan.orReject (catalog.resolve name), now) := by
    simp [Course.resolve, orReject, Database.loaded, loaded]
  rw [perform_bind, found]
  cases resolved : Plan.orReject (catalog.resolve name) with
  | error fault => rfl
  | ok table =>
      exact later table ((catalog.resolve_eq_ok_iff name table).1
        (Plan.orReject_eq_ok_iff.1 resolved)) now loaded

/-- A change that fits the table is made in place. -/
theorem Carries.change
    {table after : Table}
    {update : Update}
    (applied : update.apply table = .ok after)
    {next : Table → Course σ Outcome}
    {plan : Plan}
    (later : ∀ now : Ongoing σ,
      now.database.catalog = some (catalog.update (table.name.getD "") after) →
        (next after).perform now = planned gateway catalog now (.ok plan)) :
    Carries gateway catalog (Course.change table update >>= next) (.ok plan) := by
  intro now loaded
  have ended := Update.perform_eq table update
  rw [applied] at ended
  have changed : (Course.change table update : Course σ Table).perform now =
      (.ok after, { now with database :=
        { now.database with catalog := some (catalog.update (table.name.getD "") after) } }) := by
    simp [Course.change, ended, loaded, Except.map]
  rw [perform_bind, changed]
  exact later _ rfl

/-- A query is carried out as it is planned. -/
theorem carries_select
    (columns : Columns)
    (name : String)
    (condition : Option Condition) :
    Carries gateway catalog (select columns name condition)
      (Plan.ofSelect catalog columns name condition) := by
  refine Carries.resolve fun source _ => ?_
  refine Carries.check fun ordinals _ => ?_
  refine Carries.check fun _ _ => ?_
  refine Carries.check fun schema _ => ?_
  refine Carries.check fun bound _ => ?_
  refine Carries.check fun sifted _ => ?_
  refine Carries.check fun rows _ => ?_
  refine Carries.check fun result _ => ?_
  intro now loaded
  obtain ⟨⟨storage, _, executed, failed, lastStatement⟩, context, signals⟩ := now
  obtain rfl := loaded
  rfl

/-- An insertion is carried out as it is planned: what has been read fits the table. -/
theorem carries_insert
    (name : String)
    (attributes literals : List String) :
    Carries gateway catalog (insert gateway name attributes literals)
      (Plan.ofInsert catalog name attributes literals) := by
  refine Carries.resolve fun table found => ?_
  refine Carries.check fun _ lists => ?_
  refine Carries.check fun row read => ?_
  refine Carries.check fun _ _ => ?_
  obtain ⟨lengths, whole⟩ :=
    (Plan.checkLists_eq_ok_iff ..).1 (Plan.orReject_eq_ok_iff.1 lists)
  have fits : Plan.Fits catalog name attributes literals table := ⟨found, lengths, whole⟩
  have conforms : Row.Conforms row table.schema :=
    Literal.coerceAll_types fits.length_eq (Plan.orReject_eq_ok_iff.1 read)
  have appended : table.append row = .ok { table with rows := table.rows ++ [row] } :=
    (Table.append_eq_ok_iff ..).2 ⟨conforms, rfl⟩
  have applied : (Update.append row).apply table =
      .ok { table with rows := table.rows ++ [row] } := appended
  rw [appended]
  exact Carries.change applied fun now updated => perform_complete _ _ _ _ _ updated

/-- Without a condition all rows are dropped. -/
theorem sift_none (rows : List Row) : Plan.sift none rows = .ok (rows, []) := by
  induction rows with
  | nil => rfl
  | cons row rest inductionHypothesis =>
      rw [Plan.sift, inductionHypothesis]
      rfl

/-- A deletion is carried out as it is planned, since the rows that are kept fit the table. -/
theorem carries_delete
    (sound : catalog.Sound)
    (name : String)
    (condition : Option Condition) :
    Carries gateway catalog (delete gateway name condition)
      (Plan.ofDelete catalog name condition) := by
  refine Carries.resolve fun table found => ?_
  have conforming : table.Conforming := sound.conforming table (Catalog.mem_of_find? found)
  cases condition with
  | none =>
      have bound : Plan.orReject (Plan.bindWhere none table.schema) = pure none := rfl
      have truncated : Update.truncate.apply table = .ok { table with rows := [] } := rfl
      rw [bound, pure_bind, sift_none]
      exact Carries.change truncated fun now updated => perform_complete _ _ _ _ _ updated
  | some condition =>
      unfold drop
      rw [bind_assoc]
      refine Carries.check fun bound binds => ?_
      rw [bind_assoc]
      refine Carries.check fun sifted split => ?_
      rw [Plan.sift_eq (Plan.orReject_eq_ok_iff.1 binds) conforming] at split
      obtain rfl := Except.ok.inj split
      have fits : ∀ row ∈ table.rows.filter (!Plan.selects (some condition) table.schema ·),
          row.Conforms table.schema :=
        fun row member => conforming row (List.mem_filter.1 member).1
      have replaced := (table.replaceRows_eq_ok_iff _ _).2 ⟨fits, rfl⟩
      have applied : (Update.replaceRows
          (table.rows.filter (!Plan.selects (some condition) table.schema ·))).apply table = .ok _ :=
        replaced
      dsimp only
      rw [replaced]
      exact Carries.change applied fun now updated => perform_complete _ _ _ _ _ updated

/-- A statement is carried out in steps as it is at once. -/
theorem perform_carryOut
    (gateway : Gateway σ)
    {now : Ongoing σ}
    (loaded : now.database.catalog = some catalog)
    (sound : catalog.Sound)
    (statement : Statement) :
    (carryOut gateway statement).perform now =
      let run := Execution.ofStatement gateway ⟨catalog, now.database.storage⟩ statement
      (run.result, now.after run) := by
  have carries : Carries gateway catalog (carryOut gateway statement)
      (Plan.ofStatement catalog statement) := by
    cases statement with
    | select columns name condition => exact carries_select columns name condition
    | insert name attributes literals => exact carries_insert name attributes literals
    | delete name condition => exact carries_delete sound name condition
  rw [carries now loaded, Execution.ofStatement]
  cases Plan.ofStatement catalog statement with
  | ok plan => rfl
  | error fault =>
      obtain ⟨⟨storage, _, executed, failed, lastStatement⟩, context, signals⟩ := now
      obtain rfl := loaded
      simp [planned, Ongoing.after]

/-- A text is answered in steps as it is at once. -/
theorem perform_answer
    (gateway : Gateway σ)
    {now : Ongoing σ}
    (loaded : now.database.catalog = some catalog)
    (sound : catalog.Sound)
    (sql : String) :
    (answer gateway sql).perform now =
      let turn := now.database.answer gateway catalog sql
      (turn.result,
        { now with
          database := turn.database
          signals := now.signals ++ turn.signals.map (placed now.context) }) := by
  unfold answer Database.answer
  rw [perform_bind, perform_emit]
  dsimp only
  cases parsed : Statement.parse sql with
  | error rejection => simp [giving, Signal.inSpan, Except.map]
  | ok statement =>
      have carried : ∀ signals, (carryOut gateway statement).perform { now with signals } =
          let run := Execution.ofStatement gateway ⟨catalog, now.database.storage⟩ statement
          (run.result, { now with signals }.after run) :=
        fun signals => perform_carryOut gateway
          (show { now with signals }.database.catalog = some catalog from loaded) sound statement
      simp only [perform_bind, perform_emit, perform_outcomeOf, perform_inSpan, perform_liftExcept,
        giving, carried]
      unfold Database.carryOut
      dsimp only
      generalize Execution.ofStatement gateway ⟨catalog, now.database.storage⟩ statement = run
      cases Database.replyTo statement.type run.result with
      | error fault => simp [Ongoing.after, Signal.inSpan]
      | ok reply => simp [Ongoing.after, giving, Signal.inSpan]

/-- A text is executed in steps as it is at once. -/
theorem perform_execute
    (gateway : Gateway σ)
    {database : Database σ}
    (sound : database.Sound)
    (sql : String) :
    (execute gateway sql).perform { database } =
      let turn := database.execute gateway sql
      (turn.result, { database := turn.database, signals := turn.signals }) := by
  obtain ⟨storage, loaded, executed, failed, lastStatement⟩ := database
  unfold execute
  rw [perform_bind, perform_get]
  cases loaded with
  | none => rfl
  | some catalog =>
      have begun : ∀ context, (answer gateway sql).perform _ = _ := fun context =>
        perform_answer gateway
          (show ({ database := ⟨storage, some catalog, executed, failed, lastStatement + 1⟩
                   context := some context } : Ongoing σ).database.catalog = some catalog from rfl)
          (sound catalog rfl) sql
      dsimp only [Database.isStarted, Option.isSome, if_true]
      simp only [perform_bind, perform_alter, perform_inContext, begun, if_true]
      rfl

end

end Course

/-! ## Reachable databases -/

theorem History.sound_new (storage : σ) : (History.new storage).database.Sound :=
  nofun

/-- The tables are sound whatever a database is called to do. -/
theorem History.sound_after
    {gateway : Gateway σ}
    (loadsSound : gateway.LoadsSound)
    {history : History σ}
    (sound : history.database.Sound)
    (steps : List ((σ → σ) × Command)) :
    (history.after gateway steps).database.Sound := by
  induction steps generalizing history with
  | nil => exact sound
  | cons step rest inductionHypothesis =>
      obtain ⟨change, command⟩ := step
      have disturbed : (history.database.disturbed change).Sound := sound
      have next : (history.next gateway (change, command)).database.Sound := by
        cases command with
        | start => exact (Database.keepsOrder_start disturbed loadsSound).sound
        | stop => exact (Database.keepsOrder_stop disturbed).sound
        | execute sql => exact (Database.keepsOrder_execute disturbed gateway sql).sound
      exact inductionHypothesis next

/-- Whatever a new database has been called to do, executing a text comes to what its steps come to
one after the other, each of which leaves behind what it has changed. If the text is rejected in any
of them, or is a query, then no step has changed a table or anything in the storage: for a folder
that is every file of the workspace, for a journal the list of writes. A rejection also returns
nothing and counts nothing as changed or persisted. -/
theorem rejections_and_queries_change_nothing
    {gateway : Gateway σ}
    (loadsSound : gateway.LoadsSound)
    (storage : σ)
    (steps : List ((σ → σ) × Command))
    (sql : String) :
    let database := ((History.new storage).after gateway steps).database
    let turn := database.execute gateway sql
    (Course.execute gateway sql).perform { database } =
        (turn.result, { database := turn.database, signals := turn.signals }) ∧
      ∀ reply, turn.result = .ok reply →
        reply.rejection?.isSome ∨ reply.type? = some .select →
        turn.database.catalog = database.catalog ∧
          turn.database.storage = database.storage ∧
          (reply.rejection?.isSome →
            reply.affectedRows = 0 ∧ reply.persisted = false ∧ reply.table? = none ∧
              reply.rows = []) := by
  intro database turn
  have sound : database.Sound := History.sound_after loadsSound (History.sound_new storage) steps
  have performed := Course.perform_execute gateway sound sql
  refine ⟨performed, fun reply answered idle => ?_⟩
  have untouched := Course.untouched_of_execute gateway idle
    ((congrArg Prod.fst performed).trans answered)
  rw [performed] at untouched
  refine ⟨untouched.catalog, untouched.storage, fun rejected => ?_⟩
  cases reply with
  | accepted outcome => simp [Reply.rejection?] at rejected
  | rejected type rejection => exact ⟨rfl, rfl, rfl, rfl⟩

/-- After an insertion, another one whose value is no integer changes nothing. -/
theorem rejections_and_queries_change_nothing_sample :
    let database := ((History.new sampleJournal.storage).after Journal.gateway
      [(id, .start), (id, .execute "INSERT INTO T (a) VALUES (2)")]).database
    let after := (database.execute Journal.gateway "INSERT INTO T (a) VALUES ('x')").database
    after.catalog.map (·.tables.map Table.rows) = some [[[.integer 1], [.integer 2]]] ∧
      after.storage.writes = [.append (some "T") [.integer 2]] := by
  intro database after
  have answered : (database.execute Journal.gateway "INSERT INTO T (a) VALUES ('x')").result =
      .ok (.rejected (some .insert) (.invalidLiteral "'x'" .integer none)) := by
    decide +kernel
  obtain ⟨_, unchanged⟩ := rejections_and_queries_change_nothing Journal.loadsSound
    sampleJournal.storage [(id, .start), (id, .execute "INSERT INTO T (a) VALUES (2)")]
    "INSERT INTO T (a) VALUES ('x')"
  obtain ⟨catalog, storage, _⟩ := unchanged _ answered (.inl rfl)
  exact ⟨(congrArg (Option.map _) catalog).trans (by decide +kernel),
    (congrArg Journal.writes storage).trans (by decide +kernel)⟩

end Engine
end FlatTables
