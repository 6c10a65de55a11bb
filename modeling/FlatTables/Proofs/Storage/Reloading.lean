import FlatTables.Proofs.Storage.FileNames

/-!
# Loading what a folder keeps

A folder that has been loaded keeps the files of the loaded tables, with the rows that were read
from them. A folder that keeps files can be loaded exactly if all their lines can be read, and it
is then loaded as the tables of these files.
-/

namespace FlatTables
namespace Storage
namespace Folder

open DataFile (Encodable HoldsRows Stored)

/-! ## The first time -/

/-- A row that a folder reads for a table with attributes can be written again. -/
theorem encodable_of_readRows
    {folder : Folder}
    {table : String}
    {schema : Schema}
    {workspace : Workspace}
    {rows : List Row}
    (read : (folder.readRows table schema workspace).result = .ok rows)
    (attributes : schema.attributes ≠ [])
    {row : Row}
    (member : row ∈ rows) :
    Encodable row := by
  rcases (readRows_eq_ok_iff ..).1 read with ⟨_, rfl⟩ | ⟨bytes, _, readBytes⟩
  · cases member
  · exact DataFile.encodable_of_rowsOfBytes readBytes attributes member

/-- The schema file lists the names and schemas of the loaded tables. -/
theorem schemas_eq_of_loads
    {folder : Folder}
    {workspace : Workspace}
    {schemas : List NamedSchema}
    {tables : List Table}
    (loads : List.Forall₂ (folder.Loads workspace) schemas tables) :
    schemas = tables.map fun table => ((TableFile.ofTable table).name, table.schema) := by
  induction loads with
  | nil => rfl
  | cons first rest inductionHypothesis =>
      rw [List.map_cons, ← inductionHypothesis, TableFile.ofTable, first.name_eq, first.schema_eq]
      rfl

/-- The names of loaded tables are names of a schema file. -/
theorem isName_of_load
    {folder : Folder}
    {workspace : Workspace}
    {catalog : Catalog}
    (loaded : (folder.load workspace).result = .ok catalog) :
    ∀ name ∈ catalog.names, SchemaFile.IsName name := by
  obtain ⟨_, schemas, readSchemas, loads⟩ := load_eq_ok loaded
  obtain ⟨text, _, read⟩ := (readSchemas_eq_ok_iff ..).1 readSchemas
  intro name member
  rw [Catalog.names, names_of_loads loads] at member
  obtain ⟨named, inSchemas, rfl⟩ := List.mem_map.1 member
  exact ((SchemaFile.ofText_eq_ok read).2 named inSchemas).1

/-- With plain names, no two files of a loaded folder stand at one place unless a data file is
called like the schema file. -/
theorem Plain.separate_of_load
    {folder : Folder}
    (plain : folder.Plain)
    {workspace : Workspace}
    {catalog : Catalog}
    (loaded : (folder.load workspace).result = .ok catalog)
    (apart : ∀ name ∈ catalog.names, name ++ folder.suffix ≠ folder.schemaFile) :
    folder.Separate workspace catalog.names :=
  plain.separate workspace (isName_of_load loaded) apart

/-- A folder whose files stand at different places keeps the tables it is loaded as. -/
theorem keeps_of_load
    {folder : Folder}
    {workspace : Workspace}
    {catalog : Catalog}
    (loaded : (folder.load workspace).result = .ok catalog)
    (separate : folder.Separate workspace catalog.names) :
    folder.Keeps (catalog.tables.map TableFile.ofTable) workspace ∧
      ∀ table ∈ catalog.tables, table.name = some (TableFile.ofTable table).name ∧
        ∀ row ∈ table.rows, Encodable row := by
  obtain ⟨sound, schemas, readSchemas, loads⟩ := load_eq_ok loaded
  have own : ∀ table ∈ catalog.tables, ∃ named ∈ schemas, folder.Loads workspace named table :=
    fun table member => DataFile.exists_of_mem_right loads member
  have named : ∀ table ∈ catalog.tables, table.name = some (TableFile.ofTable table).name := by
    intro table member
    obtain ⟨name, same⟩ := Option.isSome_iff_exists.1 (sound.named table member)
    rw [TableFile.ofTable, same, Option.getD_some]
  have namesEq : (catalog.tables.map TableFile.ofTable).map TableFile.name = catalog.names := by
    rw [Catalog.names, List.map_map, ← List.filterMap_eq_map]
    exact List.filterMap_congr fun table member => (named table member).symm
  have keeps : folder.Keeps (catalog.tables.map TableFile.ofTable) workspace := by
    refine ⟨?_, namesEq ▸ separate, ?_⟩
    · rw [readSchemas, schemas_eq_of_loads loads, List.map_map]
      rfl
    · intro file member
      obtain ⟨table, inTables, rfl⟩ := List.mem_map.1 member
      obtain ⟨named, _, read⟩ := own table inTables
      have nameEq : (TableFile.ofTable table).name = named.1 := by
        rw [TableFile.ofTable, read.name_eq, Option.getD_some]
      obtain ⟨content, hasContent, holds⟩ := holdsRows_of_readRows read.rows_eq
      refine ⟨content, nameEq ▸ hasContent, ?_⟩
      rw [TableFile.ofTable, read.schema_eq]
      exact holds
  refine ⟨keeps, fun table member => ⟨named table member, fun row inRows => ?_⟩⟩
  obtain ⟨named, _, read⟩ := own table member
  refine encodable_of_readRows read.rows_eq ?_ inRows
  rw [← read.schema_eq]
  exact (keeps.proper.2 (TableFile.ofTable table) (List.mem_map_of_mem member)).2

/-! ## Again -/

/-- Rows that are read conform to the schema. -/
theorem conforms_of_readRows
    {folder : Folder}
    {workspace : Workspace}
    {table : String}
    {schema : Schema}
    {rows : List Row}
    (read : (folder.readRows table schema workspace).result = .ok rows) :
    ∀ row ∈ rows, row.Conforms schema := by
  obtain ⟨content, hasContent, holds⟩ := holdsRows_of_readRows read
  obtain ⟨readable, trimmed⟩ := (readRows_iff_of_holdsRows hasContent holds rows).1 read
  intro row member
  rw [trimmed] at member
  exact holds.conforms_of_readable readable member

/-- A table whose rows are read is registered if its name is new, and takes no other name. -/
theorem loadTable_of_readRows
    {folder : Folder}
    {workspace : Workspace}
    (named : NamedSchema)
    {rows : List Row}
    (read : (folder.readRows named.1 named.2 workspace).result = .ok rows)
    {catalog : Catalog}
    (fresh : catalog.find? named.1 = none) :
    (folder.loadTable workspace named catalog).result =
        .ok { tables := catalog.tables ++ [⟨some named.1, named.2, rows⟩] } ∧
      ∀ other, Text.fold named.1 ≠ Text.fold other → catalog.find? other = none →
        Catalog.find? { tables := catalog.tables ++ [⟨some named.1, named.2, rows⟩] } other =
          none := by
  have built : Table.ofRows (some named.1) named.2 rows = .ok ⟨some named.1, named.2, rows⟩ :=
    (Table.ofRows_eq_ok_iff ..).2 ⟨conforms_of_readRows read, rfl⟩
  have added : catalog.add ⟨some named.1, named.2, rows⟩ =
      .ok { tables := catalog.tables ++ [⟨some named.1, named.2, rows⟩] } := by
    simp [Catalog.add, Catalog.contains, fresh]
  refine ⟨(loadTable_eq_ok_iff ..).2 ⟨_, read, _, built, added⟩, ?_⟩
  intro other differ absent
  have before : catalog.tables.find? (·.isCalled other) = none := absent
  rw [Catalog.find?, List.find?_append, before]
  simp [Table.isCalled, differ]

/-- Tables whose rows are read are all registered if their names are new and distinct. -/
theorem loadTables_of_readRows
    {folder : Folder}
    {workspace : Workspace}
    {files : List TableFile}
    (read : ∀ file ∈ files,
      (folder.readRows file.name file.schema workspace).result = .ok file.load.rows)
    (distinct : (files.map fun file => Text.fold file.name).Nodup)
    {catalog : Catalog}
    (fresh : ∀ file ∈ files, catalog.find? file.name = none) :
    (folder.loadTables workspace catalog
        (files.map fun file => (file.name, file.schema))).result =
      .ok { tables := catalog.tables ++ files.map TableFile.load } := by
  induction files generalizing catalog with
  | nil => rw [List.map_nil, loadTables_nil, List.map_nil, List.append_nil]
  | cons file rest inductionHypothesis =>
      obtain ⟨unlike, restDistinct⟩ := List.nodup_cons.1 (List.map_cons ▸ distinct)
      obtain ⟨first, freshAfter⟩ := loadTable_of_readRows (file.name, file.schema)
        (read file (by simp)) (fresh file (by simp))
      have others := inductionHypothesis
        (fun other member => read other (List.mem_cons_of_mem file member)) restDistinct
        fun other member => freshAfter other.name
          (fun same => unlike (same ▸ List.mem_map_of_mem member))
          (fresh other (List.mem_cons_of_mem file member))
      rw [List.append_assoc] at others
      rw [List.map_cons, loadTables_cons_eq_ok_iff]
      exact ⟨_, first, others⟩

/-- A folder that keeps files is loaded exactly if every line can be read, and then as the tables
of these files. -/
theorem Keeps.load_eq_ok_iff
    {folder : Folder}
    {files : List TableFile}
    {workspace : Workspace}
    (keeps : folder.Keeps files workspace)
    (catalog : Catalog) :
    (folder.load workspace).result = .ok catalog ↔
      (∀ file ∈ files, file.Readable) ∧ catalog = { tables := files.map TableFile.load } := by
  have readRows : ∀ file ∈ files, ∀ rows,
      (folder.readRows file.name file.schema workspace).result = .ok rows ↔
        file.Readable ∧ rows = file.load.rows := by
    intro file member rows
    obtain ⟨content, hasContent, holds⟩ := keeps.holds file member
    exact readRows_iff_of_holdsRows hasContent holds rows
  have whole : (∀ file ∈ files, file.Readable) →
      (folder.load workspace).result = .ok { tables := files.map TableFile.load } := by
    intro readable
    unfold load
    rw [keeps.schemas_eq]
    refine loadTables_of_readRows (fun file member => ?_) keeps.proper.1 fun _ _ => rfl
    exact (readRows file member _).2 ⟨readable file member, rfl⟩
  constructor
  · intro loaded
    have readable : ∀ file ∈ files, file.Readable := by
      intro file member
      obtain ⟨_, schemas, readSchemas, loads⟩ := load_eq_ok loaded
      obtain rfl := Except.ok.inj (keeps.schemas_eq.symm.trans readSchemas)
      rw [List.forall₂_map_left_iff] at loads
      obtain ⟨table, _, read⟩ := DataFile.exists_of_mem_right loads.flip member
      exact ((readRows file member _).1 read.rows_eq).1
    exact ⟨readable, Except.ok.inj (loaded.symm.trans (whole readable))⟩
  · rintro ⟨readable, rfl⟩
    exact whole readable

end Folder
end Storage
end FlatTables
