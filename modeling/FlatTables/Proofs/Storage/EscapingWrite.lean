import FlatTables.Proofs.Storage.ReadBack
import FlatTables.Proofs.Storage.WriteFault

/-!
# Failures that escape a write

Almost every failed write is reported as a storage fault. The others are listed here: a path that
cannot be tried, and a temporary file that cannot be made, for the place in which it would stand or
for the length of its name.
-/

namespace FlatTables
namespace Storage

open DataFile (Encodable)

namespace Workspace

/-! ## Where no temporary file can be made -/

/-- What stands in the way of a temporary file for a path. -/
inductive RefusesTemporary (workspace : Workspace) (path : Path) : Obstacle → Prop
  | unreached {obstacle : Obstacle}
      (blocked : workspace.locate path.parent.settled = .error obstacle) :
      RefusesTemporary workspace path obstacle
  | missing {place : List String}
      (located : workspace.locate path.parent.settled = .ok place)
      (absent : workspace.entryAt? place = none) :
      RefusesTemporary workspace path .notFound
  | file {place : List String} {content : ByteArray}
      (located : workspace.locate path.parent.settled = .ok place)
      (isFile : workspace.entryAt? place = some (.file content)) :
      RefusesTemporary workspace path .notDirectory
  | long {place : List String}
      (located : workspace.locate path.parent.settled = .ok place)
      (isDirectory : workspace.entryAt? place = some .directory)
      (tooLong : maxNameBytes < path.name.utf8ByteSize + temporaryExtra) :
      RefusesTemporary workspace path .nameTooLong

/-- The system refuses a temporary file exactly if the path can be tried and something stands in
the way. -/
theorem temporaryPlace_eq_system_iff
    {workspace : Workspace}
    {path : Path}
    {cause : SystemFault} :
    workspace.temporaryPlace path = .error (.system cause) ↔
      holdsNull path.name = false ∧ holdsNull path.parent.settled.text = false ∧
        ∃ obstacle, workspace.RefusesTemporary path obstacle ∧
          cause = obstacle.fault [temporaryName] := by
  unfold temporaryPlace locateFor
  cases holdsNull path.name with
  | true => simp
  | false =>
      cases holdsNull path.parent.settled.text with
      | true => simp
      | false =>
          simp only [Bool.false_eq_true, if_false, true_and]
          constructor
          · intro refused
            cases located : workspace.locate path.parent.settled with
            | error obstacle =>
                simp only [located, mapError_error, Except.error.injEq,
                  AccessFault.system.injEq] at refused
                exact ⟨obstacle, .unreached located, refused.symm⟩
            | ok place =>
                simp only [located, mapError_ok] at refused
                split at refused
                · rename_i absent
                  cases refused
                  exact ⟨_, .missing located absent, rfl⟩
                · rename_i isFile
                  cases refused
                  exact ⟨_, .file located isFile, rfl⟩
                · rename_i isDirectory
                  split at refused
                  · rename_i tooLong
                    cases refused
                    exact ⟨_, .long located isDirectory tooLong, rfl⟩
                  · cases refused
          · rintro ⟨obstacle, refuses, rfl⟩
            cases refuses with
            | unreached blocked => simp [blocked]
            | missing located absent => simp [located, absent]
            | file located isFile => simp [located, isFile]
            | long located isDirectory tooLong => simp [located, isDirectory, tooLong]

/-- A temporary file is not even tried exactly if its path would hold a null character. -/
theorem temporaryPlace_eq_null_iff
    (workspace : Workspace)
    (path : Path) :
    workspace.temporaryPlace path = .error .nullCharacter ↔
      holdsNull path.name = true ∨ holdsNull path.parent.settled.text = true := by
  unfold temporaryPlace locateFor
  cases holdsNull path.name with
  | true => simp
  | false =>
      cases holdsNull path.parent.settled.text with
      | true => simp
      | false =>
          simp only [Bool.false_eq_true, if_false, or_self, iff_false]
          cases workspace.locate path.parent.settled with
          | error obstacle => simp
          | ok place =>
              simp only [mapError_ok]
              split
              · simp
              · simp
              · split <;> simp

end Workspace

/-! ## Rows that can be written -/

namespace DataFile

/-- A row whose values have texts is not refused for an integer. -/
theorem encode_ne_oversized
    {row : Row}
    (writable : row.Writable) :
    encode row ≠ .error .oversizedInteger := by
  rw [Ne, encode_eq_error_iff writable]
  rintro ⟨⟩

theorem encodeAll_ne_oversized
    {rows : List Row}
    (writable : ∀ row ∈ rows, row.Writable) :
    encodeAll rows ≠ .error .oversizedInteger := by
  induction rows with
  | nil => simp [encodeAll]
  | cons row rest inductionHypothesis =>
      obtain ⟨writableRow, writableRest⟩ := List.forall_mem_cons.1 writable
      unfold encodeAll
      cases first : encode row with
      | error own =>
          intro same
          exact encode_ne_oversized writableRow (first.trans (congrArg _ (Except.error.inj same)))
      | ok line =>
          rw [Ne, map_eq_error_iff]
          exact inductionHypothesis writableRest

/-- Rows that can be written as a whole all have a line. -/
theorem encodable_of_encodeAll
    {rows : List Row}
    {lines : List String}
    (encoded : encodeAll rows = .ok lines) :
    ∀ row ∈ rows, Encodable row := by
  intro row member
  have hasLines := encodeAll_eq_ok encoded
  clear encoded
  induction hasLines with
  | nil => cases member
  | cons first others inductionHypothesis =>
      rcases List.mem_cons.1 member with rfl | inRest
      · exact ⟨_, first⟩
      · exact inductionHypothesis inRest

end DataFile

namespace Folder

/-! ## What escapes -/

/-- A write has succeeded, or its failure is a storage fault of the class for tables. -/
def ReturnsOrReports (report : WriteReport Workspace) : Prop :=
  (∃ after, report.result = .ok after) ∨
    ∃ own, report.result = .error (.storage own) ∧ own.label = "PersistenceError"

/-- What keeps a row that can be written from being appended without being a storage fault. -/
inductive EscapesAppend (folder : Folder) (table : Table) (row : Row) : WriteFault → Prop
  | untried {name : String}
      (named : table.name = some name)
      (encodable : Encodable row)
      (null : holdsNull (folder.tablePath name).text = true) :
      EscapesAppend folder table row .nullCharacter

/-- What keeps rows that can be written from taking the place of a table without being a storage
fault: there can be no temporary file, or a null character is noticed before or after one has been
made. -/
inductive EscapesOverwrite (folder : Folder) (table : Table) (workspace : Workspace) :
    WriteFault → Prop
  | unmade {name : String} {obstacle : Obstacle}
      (named : table.name = some name)
      (encodable : ∀ row ∈ table.rows, Encodable row)
      (nameNoNull : holdsNull (folder.tablePath name).name = false)
      (parentNoNull : holdsNull (folder.tablePath name).parent.settled.text = false)
      (refuses : workspace.RefusesTemporary (folder.tablePath name) obstacle) :
      EscapesOverwrite folder table workspace
        (.system (obstacle.fault [Workspace.temporaryName]))
  | untried {name : String}
      (named : table.name = some name)
      (encodable : ∀ row ∈ table.rows, Encodable row)
      (null : holdsNull (folder.tablePath name).name = true ∨
        holdsNull (folder.tablePath name).parent.settled.text = true) :
      EscapesOverwrite folder table workspace .nullCharacter
  | noticedLate {name : String} {place : List String}
      (named : table.name = some name)
      (encodable : ∀ row ∈ table.rows, Encodable row)
      (made : workspace.temporaryPlace (folder.tablePath name) = .ok place)
      (null : holdsNull (folder.tablePath name).text = true) :
      EscapesOverwrite folder table workspace .nullCharacter

variable {folder : Folder} {table : Table} {workspace : Workspace} {fault : WriteFault}

/-- What escapes is what appending comes to. -/
theorem EscapesAppend.append_eq
    {row : Row}
    (escapes : folder.EscapesAppend table row fault) :
    (folder.append table row workspace).result = .error fault := by
  obtain ⟨named, ⟨line, encoded⟩, null⟩ := escapes
  have present : workspace.isPresent (folder.tablePath _) = .ok false := if_pos null
  rw [append_result folder named, appendTo, encoded]
  simp only [appendLine, takesLine, present, Workspace.append, Workspace.locateFor, null, if_true]

/-- What escapes is what overwriting comes to. -/
theorem EscapesOverwrite.overwrite_eq
    (escapes : folder.EscapesOverwrite table workspace fault) :
    (folder.overwrite table workspace).result = .error fault := by
  cases escapes with
  | unmade named encodable nameNoNull parentNoNull refuses =>
      obtain ⟨lines, encoded⟩ := DataFile.encodeAll_of_encodable encodable
      have refused := Workspace.temporaryPlace_eq_system_iff.2
        ⟨nameNoNull, parentNoNull, _, refuses, rfl⟩
      simp only [overwrite_result folder named, overwriteWith, encoded, refused]
      rfl
  | untried named encodable null =>
      obtain ⟨lines, encoded⟩ := DataFile.encodeAll_of_encodable encodable
      have refused := (workspace.temporaryPlace_eq_null_iff _).2 null
      simp only [overwrite_result folder named, overwriteWith, encoded, refused]
      rfl
  | noticedLate named encodable made null =>
      obtain ⟨lines, encoded⟩ := DataFile.encodeAll_of_encodable encodable
      simp only [overwrite_result folder named, overwriteWith, encoded, made, Workspace.replace,
        Workspace.locateFor, null, if_true]

/-- A row that cannot be encoded is reported as a storage fault if its integers can be written. -/
theorem label_encodingFailure
    {path : Path}
    {own : DataFile.EncodingFault}
    (fits : own ≠ .oversizedInteger) :
    ∃ storage, encodingFailure path own = .storage storage ∧
      storage.label = "PersistenceError" := by
  cases own with
  | oversizedInteger => exact absurd rfl fits
  | needsEscape field => exact ⟨_, rfl, rfl⟩
  | blank => exact ⟨_, rfl, rfl⟩

/-- A write that fails with something else than a storage fault neither returns nor reports. -/
theorem not_returnsOrReports
    {report : WriteReport Workspace}
    (failed : report.result = .error fault)
    (untyped : ∀ own, fault ≠ .storage own) :
    ¬ ReturnsOrReports report := by
  rintro (⟨after, done⟩ | ⟨own, reported, _⟩)
  · cases failed.symm.trans done
  · exact untyped own (Except.error.inj (failed.symm.trans reported))

theorem EscapesAppend.ne_storage
    {row : Row}
    (escapes : folder.EscapesAppend table row fault)
    (own : StorageFault) :
    fault ≠ .storage own := by
  cases escapes
  simp

theorem EscapesOverwrite.ne_storage
    (escapes : folder.EscapesOverwrite table workspace fault)
    (own : StorageFault) :
    fault ≠ .storage own := by
  cases escapes <;> simp

/-- A path is tried only for a row that can be written. -/
private theorem encodable_of_appendTo
    {name : String}
    {row : Row}
    (untried : folder.appendTo name row workspace = .error .nullCharacter) :
    Encodable row := by
  unfold appendTo at untried
  cases encoded : DataFile.encode row with
  | ok line => exact ⟨line, encoded⟩
  | error own =>
      simp only [encoded, Except.error.injEq] at untried
      cases own <;> cases untried

/-- A row with few digits is appended, or its failure is reported or escapes. -/
theorem append_returns_reports_or_escapes
    {row : Row}
    (fewDigits : row.FewDigits) :
    ReturnsOrReports (folder.append table row workspace) ∨
      ∃ fault, folder.EscapesAppend table row fault := by
  cases named : table.name with
  | none =>
      refine .inl (.inr ⟨.unnamedTable, ?_, rfl⟩)
      simp only [append, named]
  | some name =>
      unfold ReturnsOrReports
      rw [append_result folder named]
      cases written : folder.appendTo name row workspace with
      | ok after => exact .inl (.inl ⟨after, rfl⟩)
      | error fault =>
          rcases appendTo_eq_error written with ⟨own, unencoded, rfl⟩ | rfl | ⟨cause, rfl⟩
          · have fits : own ≠ .oversizedInteger := by
              rintro rfl
              exact DataFile.encode_ne_oversized fewDigits.writable unencoded
            obtain ⟨storage, same, label⟩ := label_encodingFailure fits
            exact .inl (.inr ⟨storage, congrArg _ same, label⟩)
          · have encodable := encodable_of_appendTo written
            refine .inr ⟨_, .untried named encodable (Bool.of_not_eq_false fun noNull => ?_)⟩
            obtain ⟨message, impossible⟩ := reported_of_appendTo noNull encodable written
            cases impossible
          · exact .inl (.inr ⟨_, rfl, rfl⟩)

/-- A table whose rows have few digits is overwritten, or the failure is reported or escapes. -/
theorem overwrite_returns_reports_or_escapes
    (fewDigits : ∀ row ∈ table.rows, row.FewDigits) :
    ReturnsOrReports (folder.overwrite table workspace) ∨
      ∃ fault, folder.EscapesOverwrite table workspace fault := by
  cases named : table.name with
  | none =>
      refine .inl (.inr ⟨.unnamedTable, ?_, rfl⟩)
      simp only [overwrite, named]
  | some name =>
      unfold ReturnsOrReports
      rw [overwrite_result folder named, overwriteWith]
      cases encoded : DataFile.encodeAll table.rows with
      | error own =>
          have fits : own ≠ .oversizedInteger := by
            rintro rfl
            exact DataFile.encodeAll_ne_oversized (fun row member =>
              (fewDigits row member).writable) encoded
          obtain ⟨storage, same, label⟩ := label_encodingFailure fits
          exact .inl (.inr ⟨storage, congrArg _ same, label⟩)
      | ok lines =>
          have encodable := DataFile.encodable_of_encodeAll encoded
          dsimp only
          cases temporary : workspace.temporaryPlace (folder.tablePath name) with
          | error own =>
              cases own with
              | nullCharacter =>
                  have null := (workspace.temporaryPlace_eq_null_iff _).1 temporary
                  exact .inr ⟨_, .untried named encodable null⟩
              | system cause =>
                  obtain ⟨nameNoNull, parentNoNull, obstacle, refuses, rfl⟩ :=
                    Workspace.temporaryPlace_eq_system_iff.1 temporary
                  exact .inr ⟨_, .unmade named encodable nameNoNull parentNoNull refuses⟩
          | ok place =>
              dsimp only
              cases replaced : workspace.replace (folder.tablePath name)
                  (DataFile.textOf lines).toUTF8 with
              | ok after => exact .inl (.inl ⟨after, rfl⟩)
              | error own =>
                  cases own with
                  | system cause => exact .inl (.inr ⟨_, rfl, rfl⟩)
                  | nullCharacter =>
                      have null := Workspace.null_of_replace replaced
                      exact .inr ⟨_, .noticedLate named encodable temporary null⟩

/-! ## The whole gateway -/

/-- A write of rows with few digits returns or fails with a storage fault exactly if nothing
escapes. What escapes from appending is a null character in the path; from overwriting, also that
the temporary file cannot be made. -/
theorem writes_fail_typed_unless_escaping
    (folder : Folder)
    (table : Table)
    (workspace : Workspace) :
    (∀ row : Row, row.FewDigits →
      (ReturnsOrReports (folder.append table row workspace) ↔
        ∀ fault, ¬ folder.EscapesAppend table row fault)) ∧
    ((∀ row ∈ table.rows, row.FewDigits) →
      (ReturnsOrReports (folder.overwrite table workspace) ↔
        ∀ fault, ¬ folder.EscapesOverwrite table workspace fault)) ∧
    (∀ row fault, folder.EscapesAppend table row fault →
      (folder.append table row workspace).result = .error fault) ∧
    ∀ fault, folder.EscapesOverwrite table workspace fault →
      (folder.overwrite table workspace).result = .error fault := by
  refine ⟨fun row fewDigits => ⟨?_, ?_⟩, fun fewDigits => ⟨?_, ?_⟩, ?_, ?_⟩
  · intro typed fault escapes
    exact not_returnsOrReports escapes.append_eq escapes.ne_storage typed
  · intro nothing
    refine (append_returns_reports_or_escapes fewDigits).resolve_right ?_
    rintro ⟨fault, escapes⟩
    exact nothing fault escapes
  · intro typed fault escapes
    exact not_returnsOrReports escapes.overwrite_eq escapes.ne_storage typed
  · intro nothing
    refine (overwrite_returns_reports_or_escapes fewDigits).resolve_right ?_
    rintro ⟨fault, escapes⟩
    exact nothing fault escapes
  · exact fun row fault escapes => escapes.append_eq
  · exact fun fault escapes => escapes.overwrite_eq

/-- A table with one text in its only row. -/
def textTable : Table where
  name := some "T"
  schema := ⟨[⟨"a", .text⟩], by simp⟩
  rows := [[.text "x"]]

/-- A directory that has been taken away is reported by appending and escapes from overwriting. -/
theorem writes_fail_typed_unless_escaping_removed :
    ReturnsOrReports ((usual (.ofString "db")).append textTable [.text "x"] {}) ∧
      ¬ ReturnsOrReports ((usual (.ofString "db")).overwrite textTable {}) ∧
      ((usual (.ofString "db")).overwrite textTable {}).result =
        .error (.system (Obstacle.notFound.fault ["<tmp>"])) := by
  obtain ⟨appendTyped, overwriteTyped, _, escaped⟩ :=
    writes_fail_typed_unless_escaping (usual (.ofString "db")) textTable {}
  have fewDigits : ∀ row ∈ textTable.rows, row.FewDigits := by
    simp [textTable, Row.FewDigits]
  have encodable : ∀ row ∈ textTable.rows, Encodable row := by
    intro row member
    obtain rfl := List.mem_singleton.1 member
    exact ⟨"x\n", by decide +kernel⟩
  have located : ({} : Workspace).locate
      ((usual (.ofString "db")).tablePath "T").parent.settled = .ok ["db"] := by
    decide +kernel
  have escapes : (usual (.ofString "db")).EscapesOverwrite textTable {}
      (.system (Obstacle.notFound.fault ["<tmp>"])) :=
    .unmade rfl encodable (by decide +kernel) (by decide +kernel) (.missing located rfl)
  refine ⟨?_, ?_, escaped _ escapes⟩
  · refine (appendTyped [.text "x"] (fewDigits _ List.mem_cons_self)).2 ?_
    rintro fault ⟨named, _, null⟩
    obtain rfl := Option.some.inj named
    exact absurd null (by decide +kernel)
  · exact fun typed => (overwriteTyped fewDigits).1 typed _ escapes

/-- Overwriting can fail with something else than a storage fault: the directory is not there. -/
theorem overwrite_can_escape :
    ¬ ∀ (folder : Folder) (table : Table) (workspace : Workspace),
      (∀ row ∈ table.rows, row.Conforms table.schema ∧ row.FewDigits) →
        ReturnsOrReports (folder.overwrite table workspace) := by
  intro always
  have typed := always (usual (.ofString "db")) ⟨some "T", ⟨[⟨"a", .text⟩], by simp⟩, []⟩ {}
    (by simp)
  have escaped : ((usual (.ofString "db")).overwrite ⟨some "T", ⟨[⟨"a", .text⟩], by simp⟩, []⟩
      {}).result = .error (.system (Obstacle.notFound.fault ["<tmp>"])) := by
    decide +kernel
  exact not_returnsOrReports escaped (by simp) typed

end Folder
end Storage
end FlatTables
