import FlatTables.Proofs.Storage.DataFile
import FlatTables.Proofs.Storage.Loading
import FlatTables.Proofs.Storage.SchemaFile
import FlatTables.Proofs.Storage.Workspace

/-!
# Folders and the rows they hold

What a folder holds is described by the list of stored rows of each table. As long as the files of
the folder stand at different places, a write adds to the stored rows of one table or replaces
them, and leaves everything else alone. Loading the folder succeeds exactly if all stored rows are
readable, and gives every table its stored rows with their texts trimmed.
-/

namespace FlatTables
namespace Storage
namespace Folder

open DataFile (HoldsRows Stored)

/-! ## Reading -/

/-- The rows of a table are read from what stands at its path. -/
theorem readRows_eq_ok_iff
    (folder : Folder)
    (table : String)
    (schema : Schema)
    (workspace : Workspace)
    (rows : List Row) :
    (folder.readRows table schema workspace).result = .ok rows ↔
      workspace.HasContent (folder.tablePath table) none ∧ rows = [] ∨
        ∃ bytes, workspace.HasContent (folder.tablePath table) (some bytes) ∧
          rowsOfBytes (folder.tablePath table) schema bytes = .ok rows := by
  simp only [readRows, Workspace.HasContent]
  cases isPresent : workspace.isPresent (folder.tablePath table) with
  | error fault =>
      simp only [reduceCtorEq, false_and, false_or, false_iff]
      rintro ⟨bytes, read, _⟩
      rw [Workspace.isPresent_of_read read] at isPresent
      cases isPresent
  | ok found =>
      cases found with
      | false =>
          simp only [Except.ok.injEq, true_and]
          constructor
          · rintro rfl
            exact .inl rfl
          · rintro (rfl | ⟨bytes, read, _⟩)
            · rfl
            · rw [Workspace.isPresent_of_read read] at isPresent
              cases isPresent
      | true =>
          simp only [Except.ok.injEq, Bool.true_eq_false, false_and, false_or]
          cases read : workspace.read (folder.tablePath table) with
          | error fault => cases fault <;> simp
          | ok bytes =>
              simp only [Except.ok.injEq, exists_eq_left']
              cases rowsOfBytes (folder.tablePath table) schema bytes <;> simp

/-- The rows a folder reads for a table are held by what stands at its path. -/
theorem holdsRows_of_readRows
    {folder : Folder}
    {table : String}
    {schema : Schema}
    {workspace : Workspace}
    {rows : List Row}
    (read : (folder.readRows table schema workspace).result = .ok rows) :
    ∃ content, workspace.HasContent (folder.tablePath table) content ∧
      HoldsRows schema content (rows.map .kept) := by
  rcases (readRows_eq_ok_iff ..).1 read with ⟨absent, rfl⟩ | ⟨bytes, hasContent, readBytes⟩
  · exact ⟨none, absent, DataFile.holdsRows_none schema⟩
  · exact ⟨some bytes, hasContent, DataFile.holdsRows_of_rowsOfBytes readBytes⟩

/-- Held rows are read exactly if all of them are readable. -/
theorem readRows_iff_of_holdsRows
    {folder : Folder}
    {table : String}
    {schema : Schema}
    {workspace : Workspace}
    {content : Option ByteArray}
    {stored : List Stored}
    (hasContent : workspace.HasContent (folder.tablePath table) content)
    (holds : HoldsRows schema content stored)
    (rows : List Row) :
    (folder.readRows table schema workspace).result = .ok rows ↔
      (∀ own ∈ stored, own.Readable) ∧ rows = stored.map (·.row.trimmed) := by
  rw [readRows_eq_ok_iff]
  cases content with
  | none =>
      obtain rfl := holds.eq_nil
      have notRead : ∀ bytes, ¬ workspace.HasContent (folder.tablePath table) (some bytes) :=
        fun bytes => hasContent.not_some
      simp [hasContent, notRead]
  | some bytes =>
      rw [← holds.rowsOfBytes_iff (folder.tablePath table) rows]
      constructor
      · rintro (⟨absent, _⟩ | ⟨other, otherContent, read⟩)
        · exact absurd hasContent absent.not_some
        · obtain rfl := Except.ok.inj (Eq.trans otherContent.symm hasContent)
          exact read
      · intro read
        exact .inr ⟨bytes, hasContent, read⟩

/-- The schemas of a folder depend on the content of its schema file only. -/
theorem readSchemas_eq_ok_iff
    (folder : Folder)
    (workspace : Workspace)
    (schemas : List NamedSchema) :
    folder.readSchemas workspace = .ok schemas ↔
      ∃ text : String, workspace.HasContent folder.schemaPath (some text.toUTF8) ∧
        SchemaFile.ofText folder.schemaPath text = .ok schemas := by
  simp only [readSchemas, Workspace.HasContent]
  cases read : workspace.read folder.schemaPath with
  | error fault =>
      cases fault with
      | nullCharacter => simp
      | system cause =>
          simp only [reduceCtorEq, false_and, exists_false, iff_false]
          split <;> simp
  | ok bytes =>
      simp only [Except.ok.injEq]
      cases decoded : Text.decode bytes with
      | error fault =>
          simp only [reduceCtorEq, false_iff, not_exists, not_and]
          intro text encoded
          rw [(Text.decode_eq_ok_iff ..).2 encoded] at decoded
          cases decoded
      | ok text =>
          simp only [mapError_eq_ok_iff]
          constructor
          · intro parsed
            exact ⟨text, (Text.decode_eq_ok_iff ..).1 decoded, parsed⟩
          · rintro ⟨other, encoded, parsed⟩
            rw [(Text.decode_eq_ok_iff ..).2 encoded] at decoded
            cases decoded
            exact parsed

/-! ## Writing -/

theorem takesLine_eq_ok
    {workspace : Workspace}
    {path : Path}
    {content : Option ByteArray}
    (hasContent : workspace.HasContent path content)
    {atLineStart : Bool}
    (taken : takesLine workspace path = .ok atLineStart) :
    atLineStart = DataFile.endsLine (content.getD ByteArray.empty) := by
  unfold takesLine at taken
  cases content with
  | none =>
      have absent : workspace.isPresent path = .ok false := hasContent
      simp only [absent, Except.ok.injEq] at taken
      rw [← taken]
      rfl
  | some bytes =>
      have read : workspace.read path = .ok bytes := hasContent
      cases isPresent : workspace.isPresent path with
      | error fault => simp [isPresent] at taken
      | ok found =>
          cases found with
          | false => exact absurd hasContent (Workspace.HasContent.not_some isPresent)
          | true =>
              simp only [isPresent, read, map_eq_ok_iff, Except.ok.injEq, exists_eq_left'] at taken
              exact taken.symm

/-- A row that is appended is encoded, and its line is added to the file of the table. -/
theorem appendTo_eq_ok
    {folder : Folder}
    {name : String}
    {row : Row}
    {before after : Workspace}
    {content : Option ByteArray}
    (hasContent : before.HasContent (folder.tablePath name) content)
    (appended : folder.appendTo name row before = .ok after) :
    ∃ line, DataFile.encode row = .ok line ∧
      Workspace.Puts before (folder.tablePath name)
        (content.getD ByteArray.empty ++
          (DataFile.appended (content.getD ByteArray.empty) line).toUTF8) after := by
  unfold appendTo at appended
  cases encoded : DataFile.encode row with
  | error fault => simp [encoded] at appended
  | ok line =>
      simp only [encoded] at appended
      cases written : appendLine before (folder.tablePath name) line with
      | error fault => cases fault <;> simp [written] at appended
      | ok own =>
          simp only [written, Except.ok.injEq] at appended
          subst appended
          unfold appendLine at written
          cases taken : takesLine before (folder.tablePath name) with
          | error fault => simp [taken] at written
          | ok atLineStart =>
              simp only [taken, takesLine_eq_ok hasContent taken] at written
              exact ⟨line, rfl, Workspace.puts_of_append hasContent written⟩

/-- Rows that overwrite a table are encoded, and their lines take the place of its file. -/
theorem overwriteWith_eq_ok
    {folder : Folder}
    {name : String}
    {rows : List Row}
    {before after : Workspace}
    (overwritten : folder.overwriteWith name rows before = .ok after) :
    ∃ lines, DataFile.encodeAll rows = .ok lines ∧
      Workspace.Puts before (folder.tablePath name) (DataFile.textOf lines).toUTF8 after := by
  unfold overwriteWith at overwritten
  cases encoded : DataFile.encodeAll rows with
  | error fault => simp [encoded] at overwritten
  | ok lines =>
      simp only [encoded] at overwritten
      cases temporary : before.temporaryPlace (folder.tablePath name) with
      | error fault => simp [temporary] at overwritten
      | ok place =>
          simp only [temporary] at overwritten
          cases replaced : before.replace (folder.tablePath name)
              (DataFile.textOf lines).toUTF8 with
          | error fault =>
              rw [replaced] at overwritten
              cases fault <;> cases overwritten
          | ok own =>
              simp only [replaced, Except.ok.injEq] at overwritten
              subst overwritten
              exact ⟨lines, rfl, Workspace.puts_of_replace replaced⟩

theorem append_result
    (folder : Folder)
    {table : Table}
    {name : String}
    (named : table.name = some name)
    (row : Row)
    (before : Workspace) :
    (folder.append table row before).result = folder.appendTo name row before := by
  simp only [append, named]
  cases folder.appendTo name row before <;> rfl

theorem overwrite_result
    (folder : Folder)
    {table : Table}
    {name : String}
    (named : table.name = some name)
    (before : Workspace) :
    (folder.overwrite table before).result = folder.overwriteWith name table.rows before := by
  simp only [overwrite, named]
  cases folder.overwriteWith name table.rows before <;> rfl

/-- A row that can be written is written, or the failure can be reported. -/
theorem reported_of_appendTo
    {folder : Folder}
    {name : String}
    {row : Row}
    {before : Workspace}
    {fault : WriteFault}
    (noNull : holdsNull (folder.tablePath name).text = false)
    (encodable : DataFile.Encodable row)
    (failed : folder.appendTo name row before = .error fault) :
    ∃ message, fault.reported? = some message := by
  obtain ⟨line, encoded⟩ := encodable
  have isSystem : ∀ own, appendLine before (folder.tablePath name) line = .error own →
      ∃ cause, own = .system cause := by
    intro own refused
    unfold appendLine takesLine at refused
    cases isPresent : before.isPresent (folder.tablePath name) with
    | error cause =>
        simp only [isPresent, Except.error.injEq] at refused
        exact ⟨cause, refused.symm⟩
    | ok found =>
        cases found with
        | false =>
            simp only [isPresent] at refused
            exact Workspace.isSystem_of_append noNull refused
        | true =>
            simp only [isPresent] at refused
            cases read : before.read (folder.tablePath name) with
            | error readFault =>
                simp only [read, Except.map, Except.error.injEq] at refused
                exact refused ▸ Workspace.isSystem_of_read noNull read
            | ok bytes =>
                simp only [read, Except.map] at refused
                exact Workspace.isSystem_of_append noNull refused
  unfold appendTo at failed
  simp only [encoded] at failed
  cases written : appendLine before (folder.tablePath name) line with
  | ok after => simp [written] at failed
  | error own =>
      obtain ⟨cause, rfl⟩ := isSystem own written
      simp only [written, Except.error.injEq] at failed
      subst failed
      exact ⟨_, rfl⟩

/-- Rows that can be written take the place of a table, or the failure can be reported. -/
theorem reported_of_overwriteWith
    {folder : Folder}
    {name : String}
    {rows : List Row}
    {before : Workspace}
    {fault : WriteFault}
    (noNull : holdsNull (folder.tablePath name).text = false)
    (encodable : ∀ row ∈ rows, DataFile.Encodable row)
    (failed : folder.overwriteWith name rows before = .error fault) :
    ∃ message, fault.reported? = some message := by
  obtain ⟨lines, encoded⟩ := DataFile.encodeAll_of_encodable encodable
  unfold overwriteWith at failed
  simp only [encoded] at failed
  cases temporary : before.temporaryPlace (folder.tablePath name) with
  | error own =>
      obtain ⟨cause, rfl⟩ := Workspace.isSystem_of_temporaryPlace noNull temporary
      simp only [temporary, Except.error.injEq] at failed
      subst failed
      exact ⟨_, rfl⟩
  | ok place =>
      simp only [temporary] at failed
      cases replaced : before.replace (folder.tablePath name) (DataFile.textOf lines).toUTF8 with
      | ok after =>
          rw [replaced] at failed
          cases failed
      | error own =>
          obtain ⟨cause, rfl⟩ := Workspace.isSystem_of_replace noNull replaced
          simp only [replaced, Except.error.injEq] at failed
          subst failed
          exact ⟨_, rfl⟩

/-! ## Stored rows -/

/-- The file of a table: whose rows it holds, and which. -/
structure TableFile where
  name : String
  schema : Schema
  stored : List Stored

namespace TableFile

/-- The file a loaded table comes from. -/
def ofTable (table : Table) : TableFile :=
  ⟨table.name.getD "", table.schema, table.rows.map .kept⟩

/-- The table that is loaded from the file. -/
def load (file : TableFile) : Table :=
  ⟨some file.name, file.schema, file.stored.map (·.row.trimmed)⟩

/-- Every line of the file can be read. -/
def Readable (file : TableFile) : Prop :=
  ∀ own ∈ file.stored, own.Readable

/-- The file with other rows if it has a given name. -/
def restock (name : String) (rows : List Stored) (file : TableFile) : TableFile :=
  if file.name = name then { file with stored := rows } else file

@[simp] theorem restock_name
    (name : String)
    (rows : List Stored)
    (file : TableFile) :
    (file.restock name rows).name = file.name := by
  unfold restock
  split <;> rfl

@[simp] theorem restock_schema
    (name : String)
    (rows : List Stored)
    (file : TableFile) :
    (file.restock name rows).schema = file.schema := by
  unfold restock
  split <;> rfl

end TableFile

/-- No two files of the folder stand at one place. -/
structure Separate (folder : Folder) (workspace : Workspace) (names : List String) : Prop where
  schema_apart : ∀ name ∈ names, workspace.Apart (folder.tablePath name) folder.schemaPath
  tables_apart : ∀ name ∈ names, ∀ other ∈ names, name ≠ other →
    workspace.Apart (folder.tablePath name) (folder.tablePath other)

/-- The folder has the given files, each at a place of its own and with its stored rows. -/
structure Keeps (folder : Folder) (files : List TableFile) (workspace : Workspace) : Prop where
  schemas_eq : folder.readSchemas workspace =
    .ok (files.map fun file => (file.name, file.schema))
  separate : folder.Separate workspace (files.map TableFile.name)
  holds : ∀ file ∈ files, ∃ content,
    workspace.HasContent (folder.tablePath file.name) content ∧
      HoldsRows file.schema content file.stored

section
variable
  {folder : Folder}
  {files : List TableFile}
  {before after : Workspace}
  (keeps : folder.Keeps files before)
include keeps

/-- What the schema file says about the names and schemas of the folder. -/
theorem Keeps.proper :
    (files.map fun file => Text.fold file.name).Nodup ∧
      ∀ file ∈ files, SchemaFile.IsName file.name ∧ file.schema.attributes ≠ [] := by
  obtain ⟨text, _, read⟩ := (readSchemas_eq_ok_iff ..).1 keeps.schemas_eq
  obtain ⟨nodup, proper⟩ := SchemaFile.ofText_eq_ok read
  refine ⟨by simpa [Function.comp_def] using nodup, fun file member => ?_⟩
  exact proper (file.name, file.schema) (List.mem_map.2 ⟨file, member, rfl⟩)

/-- A file is known by its name. -/
theorem Keeps.eq_of_name_eq
    {file other : TableFile}
    (member : file ∈ files)
    (otherMember : other ∈ files)
    (sameName : other.name = file.name) :
    other = file :=
  List.inj_on_of_nodup_map keeps.proper.1 otherMember member (by rw [sameName])

/-- A row of a table is not empty. -/
theorem Keeps.row_ne_nil
    {file : TableFile}
    (member : file ∈ files)
    {row : Row}
    (conforms : row.Conforms file.schema) :
    row ≠ [] := by
  rintro rfl
  have lengths := conforms.length_eq
  exact (keeps.proper.2 file member).2 (List.length_eq_zero_iff.1 lengths.symm)

/-- Putting a new content in the file of one table changes the stored rows of that table only. -/
theorem Keeps.put
    {file : TableFile}
    (member : file ∈ files)
    {bytes : ByteArray}
    (puts : Workspace.Puts before (folder.tablePath file.name) bytes after)
    {rows : List Stored}
    (holds : HoldsRows file.schema (some bytes) rows) :
    folder.Keeps (files.map (TableFile.restock file.name rows)) after := by
  have nameMember : file.name ∈ files.map TableFile.name := List.mem_map_of_mem member
  refine ⟨?_, ⟨?_, ?_⟩, ?_⟩
  · obtain ⟨text, hasContent, read⟩ := (readSchemas_eq_ok_iff ..).1 keeps.schemas_eq
    refine (readSchemas_eq_ok_iff ..).2 ⟨text, ?_, by simpa [Function.comp_def] using read⟩
    exact puts.frame (keeps.separate.schema_apart file.name nameMember) hasContent
  · intro name inNames
    refine puts.samePlaces.apart (keeps.separate.schema_apart name ?_)
    simpa using inNames
  · intro name inNames other otherInNames differ
    refine puts.samePlaces.apart (keeps.separate.tables_apart name ?_ other ?_ differ)
    · simpa using inNames
    · simpa using otherInNames
  · intro changed changedMember
    obtain ⟨other, otherMember, rfl⟩ := List.mem_map.1 changedMember
    rw [TableFile.restock_name, TableFile.restock_schema, TableFile.restock]
    by_cases same : other.name = file.name
    · obtain rfl := keeps.eq_of_name_eq member otherMember same
      rw [if_pos rfl]
      exact ⟨some bytes, puts.hasContent, holds⟩
    · rw [if_neg same]
      obtain ⟨content, hasContent, otherHolds⟩ := keeps.holds other otherMember
      have apart := keeps.separate.tables_apart file.name nameMember other.name
        (List.mem_map_of_mem otherMember) (Ne.symm same)
      exact ⟨content, puts.frame apart hasContent, otherHolds⟩

/-- Appending a row adds it to the stored rows of its table. -/
theorem Keeps.appendTo
    {file : TableFile}
    (member : file ∈ files)
    {row : Row}
    (conforms : row.Conforms file.schema)
    (appended : folder.appendTo file.name row before = .ok after) :
    folder.Keeps
      (files.map (TableFile.restock file.name (file.stored ++ [.written row]))) after := by
  obtain ⟨content, hasContent, holds⟩ := keeps.holds file member
  obtain ⟨line, encoded, puts⟩ := appendTo_eq_ok hasContent appended
  exact keeps.put member puts (holds.append encoded conforms (keeps.row_ne_nil member conforms))

/-- Overwriting a table leaves the new rows as its stored rows. -/
theorem Keeps.overwriteWith
    {file : TableFile}
    (member : file ∈ files)
    {rows : List Row}
    (conforming : ∀ row ∈ rows, row.Conforms file.schema)
    (overwritten : folder.overwriteWith file.name rows before = .ok after) :
    folder.Keeps (files.map (TableFile.restock file.name (rows.map .written))) after := by
  obtain ⟨lines, encoded, puts⟩ := overwriteWith_eq_ok overwritten
  refine keeps.put member puts (DataFile.holdsRows_of_encodeAll encoded conforming ?_)
  exact fun row rowMember => keeps.row_ne_nil member (conforming row rowMember)

end

end Folder
end Storage
end FlatTables
