import FlatTables.Proofs.Catalog
import FlatTables.Storage.Folder
import FlatTables.Storage.Journal

/-!
# What gateways load

Both gateways register their tables one by one in an empty catalog, so what they load is sound. A
folder loads one table for each line of its schema file, with the rows of the table's data file.
-/

namespace FlatTables
namespace Storage

/-- Whatever the gateway loads is a sound catalog. -/
def Gateway.LoadsSound (gateway : Gateway σ) : Prop :=
  ∀ storage catalog, (gateway.load storage).result = .ok catalog → catalog.Sound

namespace Folder

/-- A table is what a folder loads for a line of its schema file. -/
structure Loads
    (folder : Folder)
    (workspace : Workspace)
    (named : NamedSchema)
    (table : Table) :
    Prop where
  name_eq : table.name = some named.1
  schema_eq : table.schema = named.2
  rows_eq : (folder.readRows named.1 named.2 workspace).result = .ok table.rows

/-- The names of loaded tables are those of the schema file. -/
theorem names_of_loads
    {folder : Folder}
    {workspace : Workspace}
    {schemas : List NamedSchema}
    {tables : List Table}
    (loads : List.Forall₂ (folder.Loads workspace) schemas tables) :
    tables.filterMap Table.name = schemas.map Prod.fst := by
  induction loads with
  | nil => rfl
  | cons first rest inductionHypothesis =>
      rw [List.filterMap_cons_some first.name_eq, inductionHypothesis, List.map_cons]

/-- The tables that a folder loads have the names and the schemas of the schema file. -/
theorem map_tables_of_loads
    {folder : Folder}
    {workspace : Workspace}
    {schemas : List NamedSchema}
    {tables : List Table}
    (loads : List.Forall₂ (folder.Loads workspace) schemas tables) :
    (tables.map fun table => (table.name, table.schema)) =
      schemas.map fun named => (some named.1, named.2) := by
  induction loads with
  | nil => rfl
  | cons first rest inductionHypothesis =>
      rw [List.map_cons, List.map_cons, inductionHypothesis, first.name_eq, first.schema_eq]

theorem loadTable_eq_ok_iff
    (folder : Folder)
    (workspace : Workspace)
    (named : NamedSchema)
    (catalog after : Catalog) :
    (folder.loadTable workspace named catalog).result = .ok after ↔
      ∃ rows, (folder.readRows named.1 named.2 workspace).result = .ok rows ∧
        ∃ table, Table.ofRows (some named.1) named.2 rows = .ok table ∧
          catalog.add table = .ok after := by
  simp only [loadTable]
  rw [bind_eq_ok_iff]
  refine exists_congr fun rows => and_congr_right fun _ => ?_
  rw [bind_eq_ok_iff]
  simp only [mapError_eq_ok_iff]

theorem loadTable_eq_ok
    {folder : Folder}
    {workspace : Workspace}
    {named : NamedSchema}
    {catalog after : Catalog}
    (sound : catalog.Sound)
    (loaded : (folder.loadTable workspace named catalog).result = .ok after) :
    after.Sound ∧
      ∃ table, after.tables = catalog.tables ++ [table] ∧ folder.Loads workspace named table := by
  obtain ⟨rows, read, table, built, added⟩ := (loadTable_eq_ok_iff ..).1 loaded
  obtain ⟨conforming, rfl⟩ := Table.ofRows_eq_ok built
  obtain ⟨afterSound, tables⟩ := sound.add conforming added
  exact ⟨afterSound, _, tables, rfl, rfl, read⟩

theorem loadTables_nil
    (folder : Folder)
    (workspace : Workspace)
    (catalog : Catalog) :
    (folder.loadTables workspace catalog []).result = .ok catalog := by
  unfold loadTables
  rfl

theorem loadTables_cons_eq_ok_iff
    (folder : Folder)
    (workspace : Workspace)
    (named : NamedSchema)
    (rest : List NamedSchema)
    (catalog after : Catalog) :
    (folder.loadTables workspace catalog (named :: rest)).result = .ok after ↔
      ∃ middle, (folder.loadTable workspace named catalog).result = .ok middle ∧
        (folder.loadTables workspace middle rest).result = .ok after := by
  conv_lhs => unfold loadTables
  cases first : (folder.loadTable workspace named catalog).result with
  | error fault => simp [first]
  | ok middle => simp [first]

theorem loadTables_eq_ok
    {folder : Folder}
    {workspace : Workspace}
    {schemas : List NamedSchema}
    {catalog after : Catalog}
    (sound : catalog.Sound)
    (loaded : (folder.loadTables workspace catalog schemas).result = .ok after) :
    after.Sound ∧ ∃ tables, after.tables = catalog.tables ++ tables ∧
      List.Forall₂ (folder.Loads workspace) schemas tables := by
  induction schemas generalizing catalog with
  | nil =>
      rw [loadTables_nil, Except.ok.injEq] at loaded
      exact ⟨loaded ▸ sound, [], by simp [loaded], .nil⟩
  | cons named rest inductionHypothesis =>
      obtain ⟨middle, first, loadedRest⟩ := (loadTables_cons_eq_ok_iff ..).1 loaded
      obtain ⟨middleSound, table, middleTables, loads⟩ := loadTable_eq_ok sound first
      obtain ⟨afterSound, tables, afterTables, others⟩ :=
        inductionHypothesis middleSound loadedRest
      exact ⟨afterSound, table :: tables, by simp [afterTables, middleTables],
        .cons loads others⟩

/-- A loaded folder has exactly the tables of its schema file, in that order. -/
theorem load_eq_ok
    {folder : Folder}
    {workspace : Workspace}
    {catalog : Catalog}
    (loaded : (folder.load workspace).result = .ok catalog) :
    catalog.Sound ∧ ∃ schemas, folder.readSchemas workspace = .ok schemas ∧
      List.Forall₂ (folder.Loads workspace) schemas catalog.tables := by
  unfold load at loaded
  cases read : folder.readSchemas workspace with
  | error fault => simp [read] at loaded
  | ok schemas =>
      simp only [read] at loaded
      obtain ⟨sound, tables, tablesEq, loads⟩ := loadTables_eq_ok Catalog.sound_empty loaded
      rw [List.nil_append] at tablesEq
      exact ⟨sound, schemas, rfl, tablesEq ▸ loads⟩

@[simp] theorem gateway_load (folder : Folder) : folder.gateway.load = folder.load := by
  simp only [gateway]

/-- What a folder loads is sound. -/
theorem loadsSound (folder : Folder) : folder.gateway.LoadsSound := by
  intro storage catalog loaded
  rw [gateway_load] at loaded
  exact (load_eq_ok loaded).1

end Folder

namespace Journal

theorem sound_of_register
    {drafts : List TableDraft}
    {catalog after : Catalog}
    (sound : catalog.Sound)
    (registered : TableDraft.register catalog drafts = .ok after) :
    after.Sound := by
  induction drafts generalizing catalog with
  | nil =>
      cases registered
      exact sound
  | cons draft rest inductionHypothesis =>
      simp only [TableDraft.register, TableDraft.build, bind_eq_ok_iff,
        mapError_eq_ok_iff] at registered
      obtain ⟨table, ⟨schema, _, built⟩, middle, added, registeredRest⟩ := registered
      obtain ⟨conforming, rfl⟩ := Table.ofRows_eq_ok built
      exact inductionHypothesis (sound.add conforming added).1 registeredRest

/-- What a journal loads is sound. -/
theorem loadsSound : Journal.gateway.LoadsSound :=
  fun _ _ loaded => sound_of_register Catalog.sound_empty loaded

end Journal
end Storage
end FlatTables
