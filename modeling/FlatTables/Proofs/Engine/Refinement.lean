import FlatTables.Proofs.Engine.Step
import FlatTables.Proofs.Value

/-!
# Changes of tables

An accepted statement adds a row to one table, drops the rows of one table that meet a condition, or
changes nothing. What remains after changes is described without positions and intermediate states: a
row is listed with all changes made after it, and it remains if none of them drops it.
-/

namespace FlatTables
namespace Engine

open Query (Statement)
open Storage (Gateway WriteReport)

variable {σ : Type}

/-- What a statement changes about a table: one row is added, or all rows that meet an optional
condition are dropped. -/
inductive Change
  | insert (row : Row)
  | delete (condition : Option Condition)

namespace Change

/-- The change that the statement of a text makes to a table unless it is rejected. The statement
names the table, in any case; the row of an insertion is read from its literals. -/
def ofText? (table : Table) (sql : String) : Option Change :=
  match Statement.parse sql with
  | .ok (.insert name _ literals) =>
      if table.isCalled name then
        (Literal.coerceAll table.schema.attributes literals).toOption.map .insert
      else none
  | .ok (.delete name condition) => if table.isCalled name then some (.delete condition) else none
  | _ => none

/-- The change an answered statement makes to a table: that of its text if it was accepted. -/
def ofAnswer? (table : Table) (answer : String × Reply) : Option Change :=
  if answer.2.success then ofText? table answer.1 else none

/-- Only an accepted statement makes a change. -/
theorem success_of_ofAnswer?
    {table : Table}
    {answer : String × Reply}
    {change : Change}
    (changed : ofAnswer? table answer = some change) :
    answer.2.success = true := by
  unfold ofAnswer? at changed
  split at changed
  · assumption
  · cases changed

/-- The change drops a row that is there. -/
def drops (schema : Schema) (row : Row) : Change → Bool
  | .insert _ => false
  | .delete condition => Plan.selects condition schema row

/-- The rows after a change. -/
def apply (schema : Schema) (rows : List Row) : Change → List Row
  | .insert row => rows ++ [row]
  | .delete condition => rows.filter (!Plan.selects condition schema ·)

/-- The rows that changes add, each with the changes after it. -/
def added : List Change → List (Row × List Change)
  | [] => []
  | .insert row :: later => (row, later) :: added later
  | .delete _ :: later => added later

/-- The rows at the start and the rows that changes add, without those that a change after them
drops. -/
def remaining (schema : Schema) (start : List Row) (changes : List Change) : List Row :=
  ((start.map (·, changes) ++ added changes).filter fun (row, later) =>
    !later.any (drops schema row)).map Prod.fst

theorem remaining_nil
    (schema : Schema)
    (start : List Row) :
    remaining schema start [] = start := by
  simp [remaining, added, List.filter_map, Function.comp_def]

/-- The first change can be made before the others are looked at. -/
theorem remaining_cons
    (schema : Schema)
    (start : List Row)
    (change : Change)
    (later : List Change) :
    remaining schema start (change :: later) =
      remaining schema (change.apply schema start) later := by
  cases change with
  | insert row =>
      simp [remaining, apply, added, drops, List.filter_append, List.filter_map,
        Function.comp_def, List.filter_cons]
  | delete condition =>
      simp [remaining, apply, added, drops, List.filter_append, List.filter_map,
        Function.comp_def, Bool.and_comm]

end Change

/-- The table with the rows that remain after answered statements. -/
def changedBy (answers : List (String × Reply)) (table : Table) : Table :=
  { table with
    rows := Change.remaining table.schema table.rows
      (answers.filterMap (Change.ofAnswer? table)) }

/-- A single answered statement makes its change, if it makes any. -/
theorem changedBy_singleton
    (answer : String × Reply)
    (table : Table) :
    changedBy [answer] table =
      match Change.ofAnswer? table answer with
      | none => table
      | some change => { table with rows := change.apply table.schema table.rows } := by
  unfold changedBy
  cases change : Change.ofAnswer? table answer with
  | none => simp [change, Change.remaining_nil]
  | some own => simp [change, Change.remaining_cons, Change.remaining_nil]

/-! ## Answered statements -/

namespace Change

/-- What is known of a row that is inserted. -/
def Admissible (schema : Schema) : Change → Prop
  | .insert row => row.Conforms schema ∧ Row.Writable row ∧ row.Storable
  | .delete _ => True

/-- The table after a change. -/
def applyTo (table : Table) (change : Change) : Table :=
  { table with rows := change.apply table.schema table.rows }

/-- Hand a change of a table to the gateway. -/
def write (gateway : Gateway σ) (table : Table) (storage : σ) (change : Change) : WriteReport σ :=
  match change with
  | .insert row => gateway.append (change.applyTo table) row storage
  | .delete _ => gateway.overwrite (change.applyTo table) storage

end Change

/-- What an answered statement has done: it has left the store alone, or it has changed the one
table it names and has handed the change to the gateway. -/
inductive Answered (gateway : Gateway σ) (before : Store σ) (answer : String × Reply) :
    Store σ → Prop
  | idle
      (unconcerned : ∀ table, Change.ofAnswer? table answer = none) :
      Answered gateway before answer before
  | changed {name : String} {table : Table} (change : Change)
      (found : before.catalog.find? name = some table)
      (concerned : ∀ other ∈ before.catalog.tables,
        Change.ofAnswer? other answer = if other.isCalled name then some change else none)
      (admissible : change.Admissible table.schema)
      (persisted : answer.2.persisted = true ↔
        ∃ state, (change.write gateway table before.storage).result = .ok state) :
      Answered gateway before answer
        ⟨before.catalog.edit name (change.apply table.schema),
          (change.write gateway table before.storage).state before.storage⟩

/-- A step with a reply does what its answered statement says. -/
theorem Effect.answered
    {gateway : Gateway σ}
    {before after : Store σ}
    {sql : String}
    {reply : Reply}
    (effect : Effect gateway before sql (.ok reply) after)
    (sound : before.catalog.Sound) :
    Answered gateway before (sql, reply) after := by
  generalize resultEq : (Except.ok reply : Except Fault Reply) = result at effect
  cases effect with
  | rejected type rejection =>
      cases resultEq
      exact .idle fun table => rfl
  | selected parsed found names attributes =>
      cases resultEq
      exact .idle fun table => by simp [Change.ofAnswer?, Change.ofText?, parsed]
  | inserted parsed found coerced conforms storable report written =>
      rename_i name attributes literals table row
      obtain ⟨failure, rfl, persisted⟩ := conclude_eq_ok resultEq.symm
      subst written
      refine .changed (.insert row) found ?_
        ⟨conforms, writable_of_coerceAll coerced, storable⟩ ?_
      · intro other member
        change Change.ofText? other sql = _
        simp only [Change.ofText?, parsed]
        split
        · rename_i called
          rw [sound.eq_of_isCalled found member called, coerced]
          rfl
        · rfl
      · refine Iff.trans ?_ persisted
        cases failure <;> simp [Reply.persisted, Outcome.persisted, Outcome.writeFailure?]
  | deleted parsed found report written =>
      rename_i name condition table count
      obtain ⟨failure, rfl, persisted⟩ := conclude_eq_ok resultEq.symm
      subst written
      refine .changed (.delete condition) found ?_ trivial ?_
      · intro other member
        change Change.ofText? other sql = _
        simp only [Change.ofText?, parsed]
      · refine Iff.trans ?_ persisted
        cases failure <;> simp [Reply.persisted, Outcome.persisted, Outcome.writeFailure?]

/-- Whatever admissible change of a table is handed to the gateway, it is written, or the failure
can be reported. -/
def Reports (gateway : Gateway σ) (store : Store σ) : Prop :=
  ∀ table ∈ store.catalog.tables, ∀ change : Change, change.Admissible table.schema →
    ∀ fault, (change.write gateway table store.storage).result = .error fault →
      ∃ message, fault.reported? = some message

private theorem exists_reply_of_conclude
    {outcome : Option String → Outcome}
    {report : WriteReport σ}
    (reports : ∀ fault, report.result = .error fault → ∃ message, fault.reported? = some message) :
    ∃ reply, conclude outcome report = .ok reply := by
  unfold conclude
  cases written : report.result with
  | ok state => exact ⟨_, rfl⟩
  | error fault =>
      obtain ⟨message, reported⟩ := reports fault written
      simp [reported]

/-- If all failures can be reported, every statement has a reply. -/
theorem Effect.exists_reply
    {gateway : Gateway σ}
    {before after : Store σ}
    {sql : String}
    {result : Except Fault Reply}
    (effect : Effect gateway before sql result after)
    (reports : Reports gateway before) :
    ∃ reply, result = .ok reply := by
  cases effect with
  | rejected type rejection => exact ⟨_, rfl⟩
  | selected parsed found names attributes => exact ⟨_, rfl⟩
  | inserted parsed found coerced conforms storable report written =>
      rename_i name attributes literals table row
      subst written
      exact exists_reply_of_conclude (reports table (Catalog.mem_of_find? found) (.insert row)
        ⟨conforms, writable_of_coerceAll coerced, storable⟩)
  | deleted parsed found report written =>
      rename_i name condition table count
      subst written
      exact exists_reply_of_conclude
        (reports table (Catalog.mem_of_find? found) (.delete condition) trivial)

/-- The tables after an answered statement are those it has changed. -/
theorem Answered.tables_eq
    {gateway : Gateway σ}
    {before after : Store σ}
    {answer : String × Reply}
    (answered : Answered gateway before answer after)
    (sound : before.catalog.Sound) :
    after.catalog.tables = before.catalog.tables.map (changedBy [answer]) := by
  cases answered with
  | idle unconcerned =>
      refine (List.map_id'' (fun table => ?_) _).symm
      rw [changedBy_singleton, unconcerned]
  | changed change found concerned admissible persisted =>
      rename_i name table
      refine List.map_congr_left fun other member => ?_
      rw [changedBy_singleton, concerned other member]
      by_cases called : other.isCalled name = true
      · rw [if_pos called, if_pos called, sound.eq_of_isCalled found member called]
      · rw [if_neg called, if_neg called]

end Engine
end FlatTables
