import FlatTables.Proofs.Engine.Encodable

/-!
# Statements without a reply

Over a folder, what keeps a statement from being answered is a write that fails without being
reported. Since all rows can be written, only a null character in the path of a table does that, and
it depends on the names of the tables alone, which no statement changes.
-/

namespace FlatTables

open Storage

/-- No table of the catalog has a null character in its path. -/
def Storage.Folder.NullFree (folder : Folder) (catalog : Catalog) : Prop :=
  ∀ table ∈ catalog.tables, ∀ name, table.name = some name →
    holdsNull (folder.tablePath name).text = false

/-- A change of rows does not change any path. -/
theorem Storage.Folder.nullFree_edit_iff
    (folder : Folder)
    (catalog : Catalog)
    (name : String)
    (change : List Row → List Row) :
    folder.NullFree (catalog.edit name change) ↔ folder.NullFree catalog := by
  have names : ∀ table : Table,
      (if table.isCalled name then { table with rows := change table.rows } else table).name =
        table.name := by
    intro table
    split <;> rfl
  simp only [NullFree, Catalog.edit, List.forall_mem_map, names]

namespace Engine

variable {folder : Folder}

/-- A change of a durable catalog that cannot be written is reported, unless there is a null
character in the path of its table. -/
theorem Durable.reported_of_write
    {catalog : Catalog}
    (durable : Durable catalog)
    (nullFree : folder.NullFree catalog)
    {table : Table}
    (member : table ∈ catalog.tables)
    {change : Change}
    (admissible : change.Admissible table.schema)
    {before : Workspace}
    {fault : WriteFault}
    (failed : (change.write folder.gateway table before).result = .error fault) :
    ∃ message, fault.reported? = some message := by
  obtain ⟨name, named⟩ := Option.isSome_iff_exists.1 (durable.sound.named table member)
  exact Change.reported_of_write named (nullFree table member name named)
    (durable.encodable_apply member admissible) failed

namespace Carried

variable
  {before after : Store Workspace}
  {result : Except Fault Reply}
  (carried : Carried folder.gateway before result after)
include carried

theorem nullFree_iff : folder.NullFree after.catalog ↔ folder.NullFree before.catalog := by
  cases carried with
  | idle reply unfailed => rfl
  | changed change outcome found admissible fails => exact folder.nullFree_edit_iff _ _ _

/-- A call of a durable database is answered, or it ends in the fault of a null character, which
stands in the path of a table. -/
theorem null_of_unanswered
    (durable : Durable before.catalog)
    {fault : Fault}
    (unanswered : result = .error fault) :
    fault = .nullCharacter ∧ ¬ folder.NullFree before.catalog := by
  cases carried with
  | idle reply unfailed => cases unanswered
  | changed change outcome found admissible fails =>
      have member := Catalog.mem_of_find? found
      obtain ⟨own, written, unreported, rfl⟩ := conclude_eq_error unanswered
      constructor
      · cases durable.ofWorkspace_of_write member admissible written with
        | nullCharacter => rfl
        | _ => cases unreported
      · intro nullFree
        obtain ⟨message, reported⟩ :=
          durable.reported_of_write nullFree member admissible written
        cases unreported.symm.trans reported

end Carried

section
variable
  {database : Database Workspace}
  {before : Store Workspace}
  (holds : database.Holds before)
  (durable : Durable before.catalog)
include holds durable

/-- A statement is answered, or it ends in the fault of a null character, which stands in the path
of a table. -/
theorem null_of_execute_eq_error
    {sql : String}
    {fault : Fault}
    (unanswered : (database.execute folder.gateway sql).result = .error fault) :
    fault = .nullCharacter ∧ ¬ folder.NullFree before.catalog := by
  obtain ⟨_, _, carried⟩ := carried_perform folder.gateway holds durable.sound (.text sql)
  exact carried.null_of_unanswered durable unanswered

/-- So is a run of statements. -/
theorem null_of_executeMany_eq_error
    {sqls : List String}
    {fault : Fault}
    (unanswered : (database.executeMany folder.gateway sqls).result = .error fault) :
    fault = .nullCharacter ∧ ¬ folder.NullFree before.catalog := by
  induction sqls generalizing database before with
  | nil => cases unanswered
  | cons sql rest inductionHypothesis =>
      cases first : (database.execute folder.gateway sql).result with
      | error own =>
          rw [(executeMany_of_unanswered first rest).1] at unanswered
          exact Except.error.inj unanswered ▸ null_of_execute_eq_error holds durable first
      | ok reply =>
          rw [(executeMany_of_answered first rest).1, map_eq_error_iff] at unanswered
          obtain ⟨after, held, carried⟩ :=
            carried_perform folder.gateway holds durable.sound (.text sql)
          obtain ⟨isNull, hasNull⟩ :=
            inductionHypothesis held (carried.durable durable) unanswered
          exact ⟨isNull, mt carried.nullFree_iff.2 hasNull⟩

end

end Engine
end FlatTables
