import FlatTables.Proofs.Engine.Refinement
import FlatTables.Proofs.Storage.FileNames
import FlatTables.Proofs.Storage.Reloading

/-!
# Tables and their files

A ledger holds the rows of a table in memory next to the rows that its file holds. Every change
takes place in memory, and in the file if it is persisted: an insertion adds a row to the file, and
a deletion writes the file anew. The ledgers of a database are followed step by step, so what a
file holds after a run is known from the answered statements.
-/

namespace FlatTables
namespace Engine

open Query (Statement)
open Storage
open Storage.Folder (TableFile)

/-- A table in memory and the file it is written to. -/
structure Ledger where
  file : TableFile
  rows : List Row

namespace Ledger

/-- The table in memory. -/
def table (ledger : Ledger) : Table :=
  ⟨some ledger.file.name, ledger.file.schema, ledger.rows⟩

/-- The ledger of a table that has just been loaded. -/
def ofTable (table : Table) : Ledger :=
  ⟨.ofTable table, table.rows⟩

/-- The rows that the file holds after a change that is persisted. -/
def storedAfter (ledger : Ledger) (change : Change) : List DataFile.Stored :=
  match change with
  | .insert row => ledger.file.stored ++ [.written row]
  | .delete _ => (change.apply ledger.file.schema ledger.rows).map .written

/-- The ledger after a change. -/
def note (ledger : Ledger) (change : Change) (persisted : Bool) : Ledger where
  file :=
    if persisted then { ledger.file with stored := ledger.storedAfter change } else ledger.file
  rows := change.apply ledger.file.schema ledger.rows

/-- The ledger after an answered statement. -/
def after (ledger : Ledger) (answer : String × Reply) : Ledger :=
  match Change.ofAnswer? ledger.table answer with
  | none => ledger
  | some change => ledger.note change answer.2.persisted

/-- The ledger after answered statements. -/
def afterAll (ledger : Ledger) (answers : List (String × Reply)) : Ledger :=
  answers.foldl after ledger

/-- The table in memory takes part in the change as any other table. -/
theorem table_after
    (ledger : Ledger)
    (answer : String × Reply) :
    (ledger.after answer).table = changedBy [answer] ledger.table := by
  rw [changedBy_singleton, after]
  cases Change.ofAnswer? ledger.table answer with
  | none => rfl
  | some change =>
      dsimp only [note, table]
      split <;> rfl

/-- The file holds the rows in memory. -/
def InSync (ledger : Ledger) : Prop :=
  ledger.file.stored.map DataFile.Stored.row = ledger.rows

theorem inSync_ofTable (table : Table) : (ofTable table).InSync := by
  simp [InSync, ofTable, TableFile.ofTable, Function.comp_def, DataFile.Stored.row]

/-- A change that is persisted takes place in the file as it does in memory. -/
theorem InSync.note
    {ledger : Ledger}
    (inSync : ledger.InSync)
    (change : Change) :
    (ledger.note change true).InSync := by
  unfold InSync at inSync ⊢
  cases change with
  | insert row =>
      simp [Ledger.note, storedAfter, Change.apply, inSync, DataFile.Stored.row]
  | delete condition =>
      simp [Ledger.note, storedAfter, Function.comp_def, DataFile.Stored.row]

/-- If every accepted statement is persisted, the file holds the rows in memory throughout. -/
theorem InSync.afterAll
    {ledger : Ledger}
    (inSync : ledger.InSync)
    {answers : List (String × Reply)}
    (persisted : ∀ answer ∈ answers, answer.2.success = true → answer.2.persisted = true) :
    (ledger.afterAll answers).InSync := by
  induction answers generalizing ledger with
  | nil => exact inSync
  | cons answer rest inductionHypothesis =>
      apply inductionHypothesis ?_ fun other member =>
        persisted other (List.mem_cons_of_mem _ member)
      unfold after
      cases changed : Change.ofAnswer? ledger.table answer with
      | none => exact inSync
      | some change =>
          have success := Change.success_of_ofAnswer? changed
          rw [persisted answer List.mem_cons_self success]
          exact inSync.note change

/-- Loading the file of a table in sync gives the table with its rows trimmed. -/
theorem InSync.load_eq
    {ledger : Ledger}
    (inSync : ledger.InSync) :
    ledger.file.load = { ledger.table with rows := ledger.table.rows.map Row.trimmed } := by
  have rowsEq : ledger.table.rows = ledger.file.stored.map DataFile.Stored.row := inSync.symm
  rw [rowsEq, List.map_map]
  rfl

end Ledger

/-! ## Following a folder -/

/-- A folder appends the row of an insertion, and overwrites the table with what a deletion
retains. -/
theorem Change.write_result
    (folder : Folder)
    {table : Table}
    {name : String}
    (named : table.name = some name)
    (change : Change)
    (before : Workspace) :
    (change.write folder.gateway table before).result =
      match change with
      | .insert row => folder.appendTo name row before
      | .delete _ => folder.overwriteWith name (change.apply table.schema table.rows) before := by
  cases change with
  | insert row => exact folder.append_result named row before
  | delete condition =>
      have retainedNamed : ((Change.delete condition).applyTo table).name = some name := named
      exact folder.overwrite_result retainedNamed before

/-- The ledgers are those of the tables of a store, and the folder keeps their files. All rows in
memory can be written. -/
structure Follows (folder : Folder) (ledgers : List Ledger) (store : Store Workspace) : Prop where
  tables_eq : store.catalog.tables = ledgers.map Ledger.table
  keeps : folder.Keeps (ledgers.map Ledger.file) store.storage
  encodable : ∀ ledger ∈ ledgers, ∀ row ∈ ledger.rows, DataFile.Encodable row

/-- A change that has been written is found in the file of its table. -/
theorem keeps_write
    {folder : Folder}
    {files : List TableFile}
    {before after : Workspace}
    (keeps : folder.Keeps files before)
    {ledger : Ledger}
    (member : ledger.file ∈ files)
    (conforming : ledger.table.Conforming)
    {change : Change}
    (admissible : change.Admissible ledger.file.schema)
    (written : (change.write folder.gateway ledger.table before).result = .ok after) :
    folder.Keeps (files.map (TableFile.restock ledger.file.name (ledger.storedAfter change)))
      after := by
  rw [Change.write_result folder (rfl : ledger.table.name = some ledger.file.name)] at written
  cases change with
  | insert row => exact keeps.appendTo member admissible.1 written
  | delete condition =>
      refine keeps.overwriteWith member ?_ written
      exact fun row remains => conforming row (List.mem_filter.1 remains).1

/-- Rows that could be written before a change can be written after it. -/
theorem encodable_apply
    {schema : Schema}
    {rows : List Row}
    (encodable : ∀ row ∈ rows, DataFile.Encodable row)
    {change : Change}
    (admissible : change.Admissible schema)
    (attributes : schema.attributes ≠ []) :
    ∀ row ∈ change.apply schema rows, DataFile.Encodable row := by
  intro row member
  cases change with
  | insert new =>
      rcases List.mem_append.1 member with old | inserted
      · exact encodable row old
      · obtain rfl := List.mem_singleton.1 inserted
        obtain ⟨conforms, writable, storable⟩ := admissible
        exact DataFile.encodable_of_storable (conforms.ne_nil attributes) writable storable
  | delete condition => exact encodable row (List.mem_filter.1 member).1

section
variable
  {folder : Folder}
  {ledgers : List Ledger}
  {before after : Store Workspace}
  (follows : Follows folder ledgers before)
  (sound : before.catalog.Sound)
include follows sound

/-- A table that is found has a ledger, and only one ledger goes by its name. -/
theorem Follows.exists_ledger
    {name : String}
    {table : Table}
    (found : before.catalog.find? name = some table) :
    ∃ own ∈ ledgers, own.table = table ∧
      ∀ ledger ∈ ledgers, (ledger.table.isCalled name = true ↔ ledger = own) ∧
        (ledger.file.name = own.file.name ↔ ledger = own) := by
  have member := Catalog.mem_of_find? found
  rw [follows.tables_eq] at member
  obtain ⟨own, ownMember, rfl⟩ := List.mem_map.1 member
  have sole : ∀ ledger ∈ ledgers, ledger.table.isCalled name = true → ledger = own := by
    intro ledger ledgerMember called
    have tableMember : ledger.table ∈ before.catalog.tables :=
      follows.tables_eq ▸ List.mem_map_of_mem ledgerMember
    have tableEq := sound.eq_of_isCalled found tableMember called
    have nameEq : ledger.file.name = own.file.name :=
      Option.some.inj (congrArg Table.name tableEq)
    have fileEq := follows.keeps.eq_of_name_eq (List.mem_map_of_mem ownMember)
      (List.mem_map_of_mem ledgerMember) nameEq
    have rowsEq : ledger.rows = own.rows := congrArg Table.rows tableEq
    cases ledger
    cases own
    simp_all
  have ownCalled : own.table.isCalled name = true := Catalog.isCalled_of_find? found
  refine ⟨own, ownMember, rfl, fun ledger ledgerMember => ⟨⟨sole ledger ledgerMember, ?_⟩, ?_, ?_⟩⟩
  · rintro rfl
    exact ownCalled
  · intro nameEq
    apply sole ledger ledgerMember
    rw [← ownCalled, Ledger.table, Ledger.table, Table.isCalled, Table.isCalled, nameEq]
  · rintro rfl
    rfl

/-- A change of a table that is found is noted in its ledger and in no other. -/
theorem Follows.exists_changed
    {name : String}
    {table : Table}
    (found : before.catalog.find? name = some table)
    {answer : String × Reply}
    {change : Change}
    (concerned : ∀ other ∈ before.catalog.tables,
      Change.ofAnswer? other answer = if other.isCalled name then some change else none) :
    ∃ own ∈ ledgers, own.table = table ∧
      own.after answer = own.note change answer.2.persisted ∧
      ∀ ledger ∈ ledgers, ledger ≠ own →
        ledger.after answer = ledger ∧ ledger.file.name ≠ own.file.name := by
  obtain ⟨own, ownMember, tableEq, sole⟩ := follows.exists_ledger sound found
  have changes : ∀ ledger ∈ ledgers, Change.ofAnswer? ledger.table answer =
      if ledger.table.isCalled name then some change else none := by
    intro ledger member
    apply concerned
    rw [follows.tables_eq]
    exact List.mem_map_of_mem member
  refine ⟨own, ownMember, tableEq, ?_, fun ledger member other => ⟨?_, ?_⟩⟩
  · rw [Ledger.after, changes own ownMember, if_pos ((sole own ownMember).1.2 rfl)]
  · rw [Ledger.after, changes ledger member, if_neg (mt (sole ledger member).1.1 other)]
  · exact mt (sole ledger member).2.1 other

omit sound in
/-- If a change is noted in one ledger and written by the folder, the folder keeps the files of the
ledgers after it. -/
theorem Follows.keeps_after
    {answer : String × Reply}
    {change : Change}
    {own : Ledger}
    (ownMember : own ∈ ledgers)
    (ownAfter : own.after answer = own.note change answer.2.persisted)
    (othersAfter : ∀ ledger ∈ ledgers, ledger ≠ own →
      ledger.after answer = ledger ∧ ledger.file.name ≠ own.file.name)
    (conforming : own.table.Conforming)
    (admissible : change.Admissible own.file.schema)
    (persisted : answer.2.persisted = true ↔
      ∃ state, (change.write folder.gateway own.table before.storage).result = .ok state) :
    folder.Keeps ((ledgers.map (·.after answer)).map Ledger.file)
      ((change.write folder.gateway own.table before.storage).state before.storage) := by
  rw [List.map_map]
  cases written : (change.write folder.gateway own.table before.storage).result with
  | ok state =>
      have isPersisted : answer.2.persisted = true := persisted.2 ⟨state, written⟩
      have filesEq : ledgers.map (Ledger.file ∘ (·.after answer)) =
          (ledgers.map Ledger.file).map
            (TableFile.restock own.file.name (own.storedAfter change)) := by
        rw [List.map_map]
        refine List.map_congr_left fun ledger member => ?_
        rw [Function.comp_apply, Function.comp_apply, TableFile.restock]
        by_cases isOwn : ledger = own
        · rw [isOwn, ownAfter, isPersisted, if_pos rfl, Ledger.note, if_pos rfl]
        · obtain ⟨same, nameNe⟩ := othersAfter ledger member isOwn
          rw [same, if_neg nameNe]
      rw [filesEq]
      simpa [WriteReport.state, written] using
        keeps_write follows.keeps (List.mem_map_of_mem ownMember) conforming admissible written
  | error fault =>
      have notPersisted : answer.2.persisted = false := by
        simpa [written] using persisted
      have filesEq : ledgers.map (Ledger.file ∘ (·.after answer)) = ledgers.map Ledger.file := by
        refine List.map_congr_left fun ledger member => ?_
        rw [Function.comp_apply]
        by_cases isOwn : ledger = own
        · rw [isOwn, ownAfter, notPersisted]
          rfl
        · rw [(othersAfter ledger member isOwn).1]
      rw [filesEq]
      simpa [WriteReport.state, written] using follows.keeps

/-- An answered statement is followed by the ledgers. -/
theorem Follows.answered
    {answer : String × Reply}
    (answered : Answered folder.gateway before answer after) :
    Follows folder (ledgers.map (·.after answer)) after := by
  have tablesEq : after.catalog.tables = (ledgers.map (·.after answer)).map Ledger.table := by
    rw [answered.tables_eq sound, follows.tables_eq, List.map_map, List.map_map]
    exact List.map_congr_left fun ledger _ => (ledger.table_after answer).symm
  cases answered with
  | idle unconcerned =>
      have same : ledgers.map (·.after answer) = ledgers :=
        List.map_id'' (fun ledger => by rw [Ledger.after, unconcerned]) ledgers
      exact same.symm ▸ follows
  | changed change found concerned admissible persisted =>
      obtain ⟨own, ownMember, rfl, ownAfter, othersAfter⟩ :=
        follows.exists_changed sound found concerned
      have conforming : own.table.Conforming := sound.conforming _ (Catalog.mem_of_find? found)
      refine ⟨tablesEq, ?_, ?_⟩
      · exact follows.keeps_after ownMember ownAfter othersAfter conforming admissible persisted
      · intro ledger member
        obtain ⟨old, oldMember, rfl⟩ := List.mem_map.1 member
        by_cases isOwn : old = own
        · rw [isOwn, ownAfter]
          exact encodable_apply (follows.encodable own ownMember) admissible
            (follows.keeps.proper.2 own.file (List.mem_map_of_mem ownMember)).2
        · rw [(othersAfter old oldMember isOwn).1]
          exact follows.encodable old oldMember

end

end Engine
end FlatTables
