import FlatTables.Proofs.Engine.Selection
import FlatTables.Proofs.Engine.Step
import FlatTables.Proofs.Storage.TemporaryFile

/-!
# What deletions leave

A deletion leaves just the rows that a query for the complementary condition returns, and it counts
the rows that a query for its own condition returns. A second deletion finds nothing more to delete
and writes the same rows again. Two deletions may change places.
-/

namespace FlatTables
namespace Engine

open Storage (Gateway Folder Journal Workspace)

variable {σ : Type}

/-- Query a table for all columns of the rows that meet a condition. -/
def query (gateway : Gateway σ) (store : Store σ) (name : String) (condition : Condition) :
    Execution σ :=
  Execution.ofStatement gateway store (.select .all name (some condition))

/-- Delete the rows that meet a condition from a table. -/
def deletion (gateway : Gateway σ) (store : Store σ) (name : String) (condition : Condition) :
    Execution σ :=
  Execution.ofStatement gateway store (.delete name (some condition))

/-- A query returns just some rows. -/
def Returns (gateway : Gateway σ) (store : Store σ) (name : String) (condition : Condition)
    (rows : List Row) : Prop :=
  ∃ result : Table, (query gateway store name condition).result = .ok (.selected result) ∧
    result.rows = rows

/-- A deletion leaves just some rows of a table, changes no other table, hands these rows to the
gateway, and counts some others as deleted. -/
def Deletes (gateway : Gateway σ) (before : Store σ) (name : String) (table : Table)
    (condition : Condition) (count : Nat) (rows : List Row) : Prop :=
  Changes before name { table with rows } .delete (.deleted (table.name.getD "") count)
    (gateway.overwrite { table with rows } before.storage) (deletion gateway before name condition)

/-! ## Matching and remaining rows -/

/-- The rows of a table that meet a condition. -/
def matching (table : Table) (condition : Condition) : List Row :=
  table.rows.filter (condition.isMetBy table.schema ·)

/-- The rows of a table that do not meet a condition. -/
def remaining (table : Table) (condition : Condition) : List Row :=
  table.rows.filter (!condition.isMetBy table.schema ·)

/-- What is left of a table when the rows that meet a condition are gone. -/
def without (table : Table) (condition : Condition) : Table :=
  { table with rows := remaining table condition }

theorem length_matching_add_remaining (table : Table) (condition : Condition) :
    (matching table condition).length + (remaining table condition).length = table.size :=
  (List.length_eq_length_filter_add _).symm

@[simp] theorem matching_without (table : Table) (condition : Condition) :
    matching (without table condition) condition = [] := by
  simp [matching, without, remaining]

@[simp] theorem remaining_without (table : Table) (condition : Condition) :
    remaining (without table condition) condition = remaining table condition := by
  simp [without, remaining]

@[simp] theorem without_without (table : Table) (condition : Condition) :
    without (without table condition) condition = without table condition := by
  rw [without, remaining_without]
  rfl

/-- It does not matter which of two conditions is used first. -/
theorem remaining_without_comm (table : Table) (first second : Condition) :
    remaining (without table first) second = remaining (without table second) first := by
  simp [without, remaining, List.filter_filter, Bool.and_comm]

theorem size_without (table : Table) (condition : Condition) :
    (without table condition).size = (remaining table condition).length :=
  rfl

theorem conforming_without
    {table : Table}
    (conforming : table.Conforming)
    (condition : Condition) :
    (without table condition).Conforming :=
  fun row member => conforming row (List.mem_filter.1 member).1

/-- The remaining rows are those that meet the complement. -/
theorem remaining_eq_matching_complement
    {table : Table}
    (conforming : table.Conforming)
    {condition : Condition}
    {bound : BoundCondition}
    (binds : condition.bind table.schema = .ok bound) :
    remaining table condition = matching table condition.complement :=
  List.filter_congr fun row member =>
    (Condition.isMetBy_complement binds (conforming row member)).symm

/-! ## One statement -/

section
variable
  (gateway : Gateway σ)
  {store : Store σ}
  {name : String}
  {table : Table}
  (found : store.catalog.find? name = some table)
  (conforming : table.Conforming)
  {condition : Condition}
  {bound : BoundCondition}
  (binds : condition.bind table.schema = .ok bound)
include found conforming binds

omit found conforming in
private theorem bindWhere_some : Plan.bindWhere (some condition) table.schema = .ok (some bound) := by
  rw [Plan.bindWhere, binds]
  rfl

/-- A query returns the rows that meet its condition. -/
theorem returns_of_bind :
    Returns gateway store name condition (matching table condition) := by
  have planned := Plan.ofSelect_all found conforming (bindWhere_some binds)
  refine ⟨⟨none, table.schema, matching table condition⟩, ?_, rfl⟩
  simp only [query, Execution.ofStatement, Plan.ofStatement, planned, Execution.ofPlan]
  rfl

/-- A deletion puts a table with the remaining rows in place of the old one and writes it. -/
theorem deletion_of_bind :
    (deletion gateway store name condition).store =
        ⟨store.catalog.update (table.name.getD "") (without table condition),
          (gateway.overwrite (without table condition) store.storage).state store.storage⟩ ∧
      Database.replyTo .delete (deletion gateway store name condition).result =
        conclude (.deleted (table.name.getD "") (matching table condition).length)
          (gateway.overwrite (without table condition) store.storage) := by
  have planned := Plan.ofDelete_of_bound found conforming (bindWhere_some binds)
  have count : (matching table condition).length =
      table.size - (remaining table condition).length := by
    have total := length_matching_add_remaining table condition
    omega
  rw [count]
  simp only [deletion, Execution.ofStatement, Plan.ofStatement, planned, Execution.ofPlan]
  exact ofWrite_eq ..

/-- A deletion leaves the remaining rows and counts the matching ones. -/
theorem deletes_of_bind :
    Deletes gateway store name table condition (matching table condition).length
      (remaining table condition) := by
  obtain ⟨stored, answer⟩ := deletion_of_bind gateway found conforming binds
  have sameName : (without table condition).name = table.name := rfl
  exact .of_update found sameName stored answer

/-! ## Two deletions -/

theorem find?_name_deletion :
    (deletion gateway store name condition).store.catalog.find? name =
      some (without table condition) := by
  rw [(deletes_of_bind gateway found conforming binds).tables, if_pos rfl]
  rfl

/-- Another deletion starts from the table that the first has left. -/
theorem deletes_after_deletion
    {other : Condition}
    {otherBound : BoundCondition}
    (otherBinds : other.bind table.schema = .ok otherBound) :
    Deletes gateway (deletion gateway store name condition).store name table other
      (matching (without table condition) other).length
      (remaining (without table condition) other) :=
  deletes_of_bind gateway (find?_name_deletion gateway found conforming binds)
    (conforming_without conforming condition) otherBinds

/-- After two deletions the table is without the rows of both. -/
theorem store_deletion_deletion
    {other : Condition}
    {otherBound : BoundCondition}
    (otherBinds : other.bind table.schema = .ok otherBound) :
    let once := (deletion gateway store name condition).store
    (deletion gateway once name other).store =
      ⟨store.catalog.update (table.name.getD "") (without (without table condition) other),
        (gateway.overwrite (without (without table condition) other) once.storage).state
          once.storage⟩ := by
  intro once
  have sameName : (without table condition).name = table.name := rfl
  have foundOnce := find?_name_deletion gateway found conforming binds
  rw [(deletion_of_bind gateway foundOnce (conforming_without conforming condition) otherBinds).1]
  have onceCatalog : once.catalog =
      store.catalog.update (table.name.getD "") (without table condition) :=
    congrArg Store.catalog (deletion_of_bind gateway found conforming binds).1
  rw [onceCatalog]
  exact congrArg₂ Store.mk (Catalog.update_update found sameName _) rfl

end

/-- In a folder a second deletion under the same condition leaves every table and every file as they
are after the first. -/
theorem deletion_again
    (folder : Folder)
    {store : Store Workspace}
    {name : String}
    {table : Table}
    (found : store.catalog.find? name = some table)
    (conforming : table.Conforming)
    {condition : Condition}
    {bound : BoundCondition}
    (binds : condition.bind table.schema = .ok bound) :
    let once := (deletion folder.gateway store name condition).store
    (deletion folder.gateway once name condition).store = once := by
  intro once
  have onceEq : once = ⟨store.catalog.update (table.name.getD "") (without table condition),
      (folder.overwrite (without table condition) store.storage).state store.storage⟩ :=
    (deletion_of_bind folder.gateway found conforming binds).1
  have storageEq := congrArg Store.storage onceEq
  have twice := store_deletion_deletion folder.gateway found conforming binds binds
  rw [without_without] at twice
  calc (deletion folder.gateway once name condition).store
      = ⟨store.catalog.update (table.name.getD "") (without table condition),
          (folder.overwrite (without table condition) once.storage).state once.storage⟩ := twice
    _ = ⟨store.catalog.update (table.name.getD "") (without table condition), once.storage⟩ := by
        rw [storageEq, folder.overwrite_again (without table condition) store.storage]
    _ = once := by rw [storageEq, onceEq]

/-- For every table whose rows conform and every condition that its schema binds: The complementary
condition is bound too. A deletion leaves exactly the rows that a query for the complement returned
before, in the same order, and counts as many as a query for the condition returned. Afterwards such
a query returns nothing, and the same deletion deletes nothing and hands over the same rows; in a
folder it leaves every file as it is. Two deletions in either order leave the same rows and delete
as many. -/
theorem deletion_complements_query
    (gateway : Gateway σ)
    {store : Store σ}
    {name : String}
    {table : Table}
    (found : store.catalog.find? name = some table)
    (conforming : table.Conforming)
    {condition : Condition}
    {bound : BoundCondition}
    (binds : condition.bind table.schema = .ok bound) :
    let once := (deletion gateway store name condition).store
    (∃ opposite, condition.complement.bind table.schema = .ok opposite) ∧
      (∃ matched others : List Row,
        Returns gateway store name condition matched ∧
          Returns gateway store name condition.complement others ∧
          Deletes gateway store name table condition matched.length others ∧
          Returns gateway once name condition [] ∧
          Deletes gateway once name table condition 0 others) ∧
      (∀ (folder : Folder) (workspace : Workspace),
        let written := (deletion folder.gateway ⟨store.catalog, workspace⟩ name condition).store
        (deletion folder.gateway written name condition).store = written) ∧
      ∀ {other : Condition} {otherBound : BoundCondition},
        other.bind table.schema = .ok otherBound →
          let otherOnce := (deletion gateway store name other).store
          ∃ (first second otherFirst otherSecond : Nat) (kept otherKept rows : List Row),
            Deletes gateway store name table condition first kept ∧
              Deletes gateway once name table other second rows ∧
              Deletes gateway store name table other otherFirst otherKept ∧
              Deletes gateway otherOnce name table condition otherSecond rows ∧
              first + second = otherFirst + otherSecond := by
  intro once
  have foundOnce := find?_name_deletion gateway found conforming binds
  have conformingOnce := conforming_without conforming condition
  have opposite := Condition.bind_complement binds
  refine ⟨⟨_, opposite⟩, ⟨matching table condition, remaining table condition, ?_, ?_, ?_, ?_, ?_⟩,
    fun folder workspace => deletion_again folder found conforming binds, ?_⟩
  · exact returns_of_bind gateway found conforming binds
  · rw [remaining_eq_matching_complement conforming binds]
    exact returns_of_bind gateway found conforming opposite
  · exact deletes_of_bind gateway found conforming binds
  · rw [← matching_without table condition]
    exact returns_of_bind gateway foundOnce conformingOnce binds
  · have again := deletes_after_deletion gateway found conforming binds binds
    rwa [matching_without, remaining_without] at again
  · intro other otherBound otherBinds otherOnce
    have last := deletes_after_deletion gateway found conforming otherBinds binds
    rw [remaining_without_comm] at last
    refine ⟨_, _, _, _, _, _, _, deletes_of_bind gateway found conforming binds,
      deletes_after_deletion gateway found conforming binds otherBinds,
      deletes_of_bind gateway found conforming otherBinds, last, ?_⟩
    -- On either way the deleted rows and those that are left make up the table.
    have total := length_matching_add_remaining table condition
    have totalOnce := length_matching_add_remaining (without table condition) other
    have otherTotal := length_matching_add_remaining table other
    have otherTotalOnce := length_matching_add_remaining (without table other) condition
    rw [size_without] at totalOnce otherTotalOnce
    rw [remaining_without_comm] at otherTotalOnce
    omega

/-- Two rows of three are deleted, a second time none, and then the last one under a condition that
one of the deleted rows would have met too. -/
theorem deletion_complements_query_of_streets :
    let store : Store Journal := ⟨⟨[streets]⟩, { drafts := [] }⟩
    let condition : Condition := ⟨"nr", .atMost, "' 3 '"⟩
    let other : Condition := ⟨"nr", .greater, "+2"⟩
    let once := (deletion Journal.gateway store "STRASSE" condition).store
    Returns Journal.gateway store "STRASSE" condition.complement [[.integer 20, .text ""]] ∧
      Deletes Journal.gateway store "STRASSE" streets condition 2 [[.integer 20, .text ""]] ∧
      Deletes Journal.gateway once "STRASSE" streets condition 0 [[.integer 20, .text ""]] ∧
      Deletes Journal.gateway once "STRASSE" streets other 1 [] := by
  intro store condition other once
  have conforming : streets.Conforming := by
    unfold Table.Conforming
    decide
  have found : store.catalog.find? "STRASSE" = some streets := by decide +kernel
  have binds : condition.bind streets.schema = .ok ⟨condition, 0, .integer 3⟩ := by decide +kernel
  have otherBinds : other.bind streets.schema = .ok ⟨other, 0, .integer 2⟩ := by decide +kernel
  have selected : (query Journal.gateway store "STRASSE" condition).result =
      .ok (.selected ⟨none, streets.schema,
        [[.integer 1, .text "Ulm"], [.integer 3, .text "Ulm"]]⟩) := by
    decide +kernel
  have others : (query Journal.gateway store "STRASSE" condition.complement).result =
      .ok (.selected ⟨none, streets.schema, [[.integer 20, .text ""]]⟩) := by
    decide +kernel
  obtain ⟨_, ⟨_, _, ⟨matched, returned, rfl⟩, ⟨left, leftReturned, rfl⟩, deletes, _, again⟩, _,
    commutes⟩ := deletion_complements_query Journal.gateway found conforming binds
  obtain rfl := Outcome.selected.inj (Except.ok.inj (returned.symm.trans selected))
  obtain rfl := Outcome.selected.inj (Except.ok.inj (leftReturned.symm.trans others))
  obtain ⟨_, second, _, _, _, _, rows, _, secondDeletes, _⟩ := commutes otherBinds
  have otherDeletes : Deletes Journal.gateway once "STRASSE" streets other second rows :=
    secondDeletes
  have emptied : (deletion Journal.gateway once "STRASSE" other).store.catalog.find? "STRASSE" =
      some { streets with rows := [] } := by
    decide +kernel
  have answered : (deletion Journal.gateway once "STRASSE" other).result =
      .ok (.deleted "Straße" 1 none) := by
    decide +kernel
  have leftRows := otherDeletes.tables "STRASSE"
  rw [emptied, if_pos rfl] at leftRows
  obtain rfl := congrArg Table.rows (Option.some.inj leftRows)
  have answer := otherDeletes.answer
  rw [answered] at answer
  obtain ⟨failure, same, _⟩ := conclude_eq_ok answer.symm
  obtain ⟨_, rfl, _⟩ := Outcome.deleted.inj (Reply.accepted.inj same)
  exact ⟨⟨_, others, rfl⟩, deletes, again, otherDeletes⟩

end Engine
end FlatTables
