import FlatTables.Proofs.Samples

/-!
# Writing rows and reading them back

A table that has been overwritten is read back as its rows with their texts trimmed, and a row that
has been appended is read behind the rows that could be read before, whatever the file looked like.
Rows within the limits of the format are never refused, so only the workspace can make such a write
fail.
-/

namespace FlatTables

/-! ## Rows within the limits of the format -/

/-- The row passes the check that precedes an insertion; its values may have been written as any
literals. -/
def Row.PassesCheck (row : Row) : Prop :=
  ∃ literals : List String,
    literals.length = row.length ∧ Literal.ensureStorable row literals = .ok ()

/-- No integer of the row has more digits than can be written. -/
def Row.FewDigits (row : Row) : Prop :=
  ∀ n, Value.integer n ∈ row → n.natAbs < 10 ^ Decimal.maxIntegerDigits

/-- A row of a schema that is within the limits of the format. -/
structure Row.Portable (row : Row) (schema : Schema) : Prop where
  conforms : row.Conforms schema
  passesCheck : row.PassesCheck
  fewDigits : row.FewDigits
  finite : row.Finite

theorem integerText?_of_natAbs_lt
    {n : Int}
    (few : n.natAbs < 10 ^ Decimal.maxIntegerDigits) :
    ∃ text, Decimal.integerText? n = some text := by
  have short : (Decimal.digitsOf n.natAbs).length ≤ Decimal.maxIntegerDigits := by
    rw [Decimal.digitsOf, Nat.length_toDigits_le_iff (by decide) (by decide)]
    exact few
  exact ⟨_, if_pos short⟩

/-- A row whose integers have few digits has a text for every value. -/
theorem Row.FewDigits.writable
    {row : Row}
    (fewDigits : row.FewDigits) :
    row.Writable := by
  intro value member
  cases value with
  | integer n =>
      obtain ⟨text, written⟩ := integerText?_of_natAbs_lt (fewDigits n member)
      exact ⟨String.ofList text, by rw [Value.format?, written, Option.map_some]⟩
  | text s => exact ⟨s, rfl⟩
  | real x => exact ⟨_, rfl⟩

/-- Trimming leaves a row alone if it leaves its texts alone. -/
theorem Row.trimmed_of_texts
    {row : Row}
    (texts : ∀ s, Value.text s ∈ row → Text.trim s = s) :
    row.trimmed = row := by
  have values : ∀ value ∈ row, value.trimmed = value := by
    intro value member
    cases value with
    | integer n => rfl
    | text s => rw [Value.trimmed, texts s member]
    | real x => rfl
  rw [Row.trimmed, List.map_congr_left values, List.map_id']

namespace Storage

/-- A row within the limits has a line, if there are attributes at all. -/
theorem DataFile.encodable_of_portable
    {schema : Schema}
    {row : Row}
    (attributes : 1 ≤ schema.arity)
    (portable : row.Portable schema) :
    row ≠ [] ∧ Encodable row := by
  obtain ⟨literals, lengths, passed⟩ := portable.passesCheck
  have nonempty := portable.conforms.ne_nil (List.ne_nil_of_length_pos attributes)
  exact ⟨nonempty, encodable_of_storable nonempty portable.fewDigits.writable
    (Literal.storable_of_ensureStorable (Nat.le_of_eq lengths.symm) passed)⟩

namespace Folder

open DataFile (HoldsRows Stored)

/-! ## Overwriting and reading -/

/-- A row that was read has trimmed texts. -/
theorem trimmed_of_readRows
    {folder : Folder}
    {table : String}
    {schema : Schema}
    {workspace : Workspace}
    {rows : List Row}
    (read : (folder.readRows table schema workspace).result = .ok rows)
    {row : Row}
    (member : row ∈ rows) :
    row.trimmed = row := by
  obtain ⟨content, _, text, _, areLines⟩ := holdsRows_of_readRows read
  obtain ⟨line, _, isLine⟩ := DataFile.exists_of_mem_right areLines (List.mem_map_of_mem member)
  cases isLine with
  | kept reads => exact reads.trimmed_eq

/-- Rows within the limits can be written as the whole content of a table. Once they are, they are
read back in order, with integers and real numbers as they were and every text trimmed. Rows whose
texts are trimmed come back as they were, and so do rows that come from a data file. -/
theorem readRows_overwrite
    {folder : Folder}
    {table : Table}
    {name : String}
    (named : table.name = some name)
    (attributes : 1 ≤ table.schema.arity)
    (portable : ∀ row ∈ table.rows, row.Portable table.schema) :
    (∃ lines, DataFile.encodeAll table.rows = .ok lines) ∧
      ∀ before after : Workspace, (folder.overwrite table before).result = .ok after →
        (folder.readRows name table.schema after).result = .ok (table.rows.map Row.trimmed) ∧
        ((∀ row ∈ table.rows,
            (∀ s, Value.text s ∈ row → Text.trim s = s) ∨
            ∃ (origin : Folder) (source : String) (elsewhere : Workspace) (rows : List Row),
              (origin.readRows source table.schema elsewhere).result = .ok rows ∧ row ∈ rows) →
          (folder.readRows name table.schema after).result = .ok table.rows) := by
  refine ⟨DataFile.encodeAll_of_encodable fun row member =>
    (DataFile.encodable_of_portable attributes (portable row member)).2, ?_⟩
  intro before after overwritten
  rw [overwrite_result folder named] at overwritten
  obtain ⟨lines, encoded, puts⟩ := overwriteWith_eq_ok overwritten
  have holds : HoldsRows table.schema (some (DataFile.textOf lines).toUTF8)
      (table.rows.map .written) :=
    DataFile.holdsRows_of_encodeAll encoded (fun row member => (portable row member).conforms)
      fun row member => (DataFile.encodable_of_portable attributes (portable row member)).1
  have readable : ∀ own ∈ table.rows.map Stored.written, own.Readable := by
    intro own member
    obtain ⟨row, inTable, rfl⟩ := List.mem_map.1 member
    exact (portable row inTable).finite
  have read : (folder.readRows name table.schema after).result =
      .ok (table.rows.map Row.trimmed) := by
    refine (readRows_iff_of_holdsRows puts.hasContent holds _).2 ⟨readable, ?_⟩
    rw [List.map_map]
    rfl
  refine ⟨read, fun clean => ?_⟩
  have unchanged : ∀ row ∈ table.rows, Row.trimmed row = row := by
    intro row member
    rcases clean row member with texts | ⟨origin, source, elsewhere, rows, readRows, inRows⟩
    · exact Row.trimmed_of_texts texts
    · exact trimmed_of_readRows readRows inRows
  rw [read, List.map_congr_left unchanged, List.map_id']

/-- One and a half. -/
def sampleReal : Decimal.Binary64 :=
  .finite false ⟨0x3FF8000000000000, by decide⟩

/-- A row whose text has blanks at both ends and within. -/
def sampleRow : Row :=
  [.integer (-5), .text " a \t b ", .real sampleReal]

/-- A table with that row. -/
def sampleTable : Table where
  name := some "T"
  schema := ⟨[⟨"i", .integer⟩, ⟨"t", .text⟩, ⟨"r", .real⟩], by decide⟩
  rows := [sampleRow]

theorem portable_sampleRow : sampleRow.Portable sampleTable.schema := by
  refine ⟨by decide, ⟨["-5", "' a \t b '", "1.5"], rfl, by decide⟩, ?_, by decide⟩
  intro n member
  have same : n = -5 := by simpa [sampleRow] using member
  rw [same]
  decide +kernel

private theorem exists_of_isSome
    {result : Except ε α}
    (succeeds : result.toOption.isSome = true) :
    ∃ value, result = .ok value := by
  cases result with
  | error fault => cases succeeds
  | ok value => exact ⟨value, rfl⟩

/-- In an empty folder, the text of the row loses its outer blanks only. -/
theorem readRows_overwrite_sample :
    ∃ after,
      ((usual (.ofString "db")).overwrite sampleTable (sampleWorkspace [])).result = .ok after ∧
      ((usual (.ofString "db")).readRows "T" sampleTable.schema after).result =
        .ok [[.integer (-5), .text "a \t b", .real sampleReal]] := by
  obtain ⟨after, overwritten⟩ : ∃ after,
      ((usual (.ofString "db")).overwrite sampleTable (sampleWorkspace [])).result = .ok after :=
    exists_of_isSome (by decide +kernel)
  have portable : ∀ row ∈ sampleTable.rows, row.Portable sampleTable.schema := fun row member =>
    List.mem_singleton.1 member ▸ portable_sampleRow
  refine ⟨after, overwritten, ?_⟩
  rw [((readRows_overwrite rfl (by decide) portable).2 _ after overwritten).1]
  decide +kernel

/-! ## Appending and reading -/

/-- A row within the limits can be written as a line. Once it has been appended to a file that could
be read, whatever its line breaks and blank lines, or to no file, the rows that were read before are
read again, followed by the row with its texts trimmed. -/
theorem readRows_append
    {folder : Folder}
    {table : Table}
    {name : String}
    (named : table.name = some name)
    (attributes : 1 ≤ table.schema.arity)
    {before : Workspace}
    {rows : List Row}
    (read : (folder.readRows name table.schema before).result = .ok rows)
    {row : Row}
    (portable : row.Portable table.schema) :
    (∃ line, DataFile.encode row = .ok line) ∧
      ∀ after : Workspace, (folder.append table row before).result = .ok after →
        (folder.readRows name table.schema after).result = .ok (rows ++ [row.trimmed]) := by
  obtain ⟨nonempty, encodable⟩ := DataFile.encodable_of_portable attributes portable
  refine ⟨encodable, fun after appended => ?_⟩
  rw [append_result folder named] at appended
  obtain ⟨content, hasContent, holds⟩ := holdsRows_of_readRows read
  obtain ⟨line, encoded, puts⟩ := appendTo_eq_ok hasContent appended
  refine (readRows_iff_of_holdsRows puts.hasContent
    (holds.append encoded portable.conforms nonempty) _).2 ⟨?_, ?_⟩
  · intro own member
    rcases List.mem_append.1 member with kept | written
    · obtain ⟨old, _, rfl⟩ := List.mem_map.1 kept
      trivial
    · rw [List.mem_singleton.1 written]
      exact portable.finite
  · have unchanged : ∀ old ∈ rows, (Stored.kept old).row.trimmed = old :=
      fun old member => trimmed_of_readRows read member
    rw [List.map_append, List.map_map, Function.comp_def, List.map_congr_left unchanged,
      List.map_id']
    rfl

/-- A row is added to a file that has a blank line and does not end its last line. -/
theorem readRows_append_sample :
    ∃ after,
      ((usual (.ofString "db")).append sampleTable sampleRow
        (sampleWorkspace [("T.csv", "1,x,1.5\r\n \n-2, y ,1.5")])).result = .ok after ∧
      ((usual (.ofString "db")).readRows "T" sampleTable.schema after).result =
        .ok [[.integer 1, .text "x", .real sampleReal],
          [.integer (-2), .text "y", .real sampleReal],
          [.integer (-5), .text "a \t b", .real sampleReal]] := by
  have read : ((usual (.ofString "db")).readRows "T" sampleTable.schema
      (sampleWorkspace [("T.csv", "1,x,1.5\r\n \n-2, y ,1.5")])).result =
        .ok [[.integer 1, .text "x", .real sampleReal],
          [.integer (-2), .text "y", .real sampleReal]] := by
    decide +kernel
  obtain ⟨after, appended⟩ : ∃ after,
      ((usual (.ofString "db")).append sampleTable sampleRow
        (sampleWorkspace [("T.csv", "1,x,1.5\r\n \n-2, y ,1.5")])).result = .ok after :=
    exists_of_isSome (by decide +kernel)
  refine ⟨after, appended, ?_⟩
  rw [(readRows_append rfl (by decide) read portable_sampleRow).2 after appended]
  decide +kernel

end Folder
end Storage
end FlatTables
