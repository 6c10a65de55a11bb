import FlatTables.Proofs.Storage.Directories
import FlatTables.Proofs.Storage.Reloading

/-!
# What writes depend on and what they change

A write changes at most the file at the path it is about. Where the directory of that file is there,
it also depends on nothing else than the entry at the place of the file: in two workspaces that
agree there, the same write comes to the same. In a folder that has been loaded, the directory of
the data files is there, and no write takes it away.
-/

namespace FlatTables
namespace Storage

/-! ## What a write leaves alone -/

namespace Workspace

/-- Every place but that of the file has the same entry as before. -/
theorem Puts.entryAt?_eq
    {before after : Workspace}
    {path : Path}
    {bytes : ByteArray}
    (puts : Puts before path bytes after)
    {place : List String}
    (elsewhere : before.locate path ≠ .ok place) :
    after.entryAt? place = before.entryAt? place := by
  obtain ⟨own, located, notDirectory, rfl⟩ := puts.inserted
  have differs : place ≠ own := by
    rintro rfl
    exact elsewhere located
  rw [entryAt?_insert _ (nonempty_of_entryAt? notDirectory), if_neg differs]

/-- No directory is taken away. -/
theorem Puts.entryAt?_directory
    {before after : Workspace}
    {path : Path}
    {bytes : ByteArray}
    (puts : Puts before path bytes after)
    {place : List String}
    (isDirectory : before.entryAt? place = some .directory) :
    after.entryAt? place = some .directory := by
  rw [puts.entryAt?_eq ?_, isDirectory]
  intro located
  obtain ⟨own, ownLocated, notDirectory, _⟩ := puts.inserted
  obtain rfl := Except.ok.inj (located.symm.trans ownLocated)
  exact notDirectory isDirectory

/-- Appending gives the file some new content. -/
theorem exists_puts_of_append
    {before after : Workspace}
    {path : Path}
    {bytes : ByteArray}
    (appended : before.append path bytes = .ok after) :
    ∃ content, Puts before path content after := by
  unfold append at appended
  cases located : before.locateFor path [path.text] with
  | error fault => simp [located] at appended
  | ok place =>
      obtain ⟨noNull, locate⟩ := (locateFor_eq_ok_iff ..).1 located
      simp only [located] at appended
      cases entry : before.entryAt? place with
      | none =>
          simp only [entry, Except.ok.injEq] at appended
          exact ⟨bytes, noNull, place, locate, by simp [entry], appended.symm⟩
      | some own =>
          cases own with
          | directory => simp [entry] at appended
          | file content =>
              simp only [entry, Except.ok.injEq] at appended
              exact ⟨content ++ bytes, noNull, place, locate, by simp [entry], appended.symm⟩

/-- Nothing has changed, or one file has got a new content. -/
def Touches (before : Workspace) (path : Path) (after : Workspace) : Prop :=
  after = before ∨ ∃ bytes, Puts before path bytes after

end Workspace

namespace Folder

/-- Appending a row touches the file of its table only. -/
theorem touches_append
    (folder : Folder)
    {table : Table}
    {name : String}
    (named : table.name = some name)
    (row : Row)
    (before : Workspace) :
    before.Touches (folder.tablePath name) ((folder.append table row before).state before) := by
  unfold WriteReport.state
  rw [folder.append_result named]
  cases written : folder.appendTo name row before with
  | error fault => exact .inl rfl
  | ok after =>
      refine .inr ?_
      unfold appendTo at written
      cases encoded : DataFile.encode row with
      | error fault => simp [encoded] at written
      | ok line =>
          simp only [encoded] at written
          cases appended : appendLine before (folder.tablePath name) line with
          | error fault => cases fault <;> simp [appended] at written
          | ok own =>
              simp only [appended, Except.ok.injEq] at written
              subst written
              unfold appendLine at appended
              split at appended
              · cases appended
              · exact Workspace.exists_puts_of_append appended

/-- Overwriting a table touches its file only. -/
theorem touches_overwrite
    (folder : Folder)
    {table : Table}
    {name : String}
    (named : table.name = some name)
    (before : Workspace) :
    before.Touches (folder.tablePath name) ((folder.overwrite table before).state before) := by
  unfold WriteReport.state
  rw [folder.overwrite_result named]
  cases written : folder.overwriteWith name table.rows before with
  | error fault => exact .inl rfl
  | ok after =>
      obtain ⟨lines, _, puts⟩ := overwriteWith_eq_ok written
      exact .inr ⟨_, puts⟩

end Folder

/-! ## What a write depends on -/

namespace Workspace

/-- A path leads to a place in a directory that is there. -/
structure Receives (workspace : Workspace) (path : Path) (place : List String) : Prop where
  noNull : holdsNull path.text = false
  located : workspace.locate path = .ok place
  parent : ∃ above, workspace.locate path.parent = .ok above ∧
    workspace.entryAt? above = some .directory

/-- Where all paths lead to the same places and no directory is missing, files are still
received. -/
theorem Receives.mono
    {before after : Workspace}
    {path : Path}
    {place : List String}
    (receives : before.Receives path place)
    (samePlaces : SamePlaces before after)
    (directories : ∀ above, before.entryAt? above = some .directory →
      after.entryAt? above = some .directory) :
    after.Receives path place := by
  obtain ⟨noNull, located, above, aboveLocated, isDirectory⟩ := receives
  exact ⟨noNull, (samePlaces.located path place).2 located, above,
    (samePlaces.located path.parent above).2 aboveLocated, directories above isDirectory⟩

/-- In two workspaces a write has failed for the same reason, or has put the same file at a
place. -/
inductive Alike {ε : Type} (place : List String) (left right : Workspace) :
    Except ε Workspace → Except ε Workspace → Prop
  | failed (fault : ε) : Alike place left right (.error fault) (.error fault)
  | put (bytes : ByteArray) :
      Alike place left right (.ok (left.insert place (.file bytes)))
        (.ok (right.insert place (.file bytes)))

section
variable
  {left right : Workspace}
  {path : Path}
  {place : List String}
  (leftReceives : left.Receives path place)
  (rightReceives : right.Receives path place)
  (sameEntry : left.entryAt? place = right.entryAt? place)

theorem Receives.locateFor_eq
    {workspace : Workspace}
    (receives : workspace.Receives path place)
    (mentioned : List String) :
    workspace.locateFor path mentioned = .ok place :=
  (locateFor_eq_ok_iff ..).2 ⟨receives.noNull, receives.located⟩

include leftReceives rightReceives

/-- A temporary file can be made in both workspaces or in neither. -/
theorem temporaryPlace_alike :
    (∃ fault, left.temporaryPlace path = .error fault ∧
        right.temporaryPlace path = .error fault) ∨
      (∃ above, left.temporaryPlace path = .ok above) ∧
        ∃ above, right.temporaryPlace path = .ok above := by
  have formula : ∀ workspace : Workspace, workspace.Receives path place →
      ∃ above, workspace.temporaryPlace path =
        if maxNameBytes < path.name.utf8ByteSize + temporaryExtra then
          .error (.system (Obstacle.nameTooLong.fault [temporaryName]))
        else .ok above := by
    intro workspace receives
    obtain ⟨above, located, isDirectory⟩ := receives.parent
    obtain ⟨parentNoNull, nameNoNull⟩ := holdsNull_parts receives.noNull
    have followed : workspace.locateFor path.parent.settled [temporaryName] = .ok above :=
      (locateFor_eq_ok_iff ..).2
        ⟨holdsNull_settled parentNoNull, locate_settled located isDirectory⟩
    refine ⟨above, ?_⟩
    simp only [temporaryPlace, followed, nameNoNull, Bool.false_eq_true, if_false, isDirectory]
  obtain ⟨leftAbove, leftFormula⟩ := formula left leftReceives
  obtain ⟨rightAbove, rightFormula⟩ := formula right rightReceives
  by_cases long : maxNameBytes < path.name.utf8ByteSize + temporaryExtra
  · rw [if_pos long] at leftFormula rightFormula
    exact .inl ⟨_, leftFormula, rightFormula⟩
  · rw [if_neg long] at leftFormula rightFormula
    exact .inr ⟨⟨_, leftFormula⟩, _, rightFormula⟩

include sameEntry

/-- What is read at a path depends on nothing but the entry at its place. -/
theorem read_alike : left.read path = right.read path := by
  rw [read, read, leftReceives.locateFor_eq, rightReceives.locateFor_eq]
  simp only [sameEntry]

theorem isPresent_alike : left.isPresent path = right.isPresent path := by
  rw [isPresent, isPresent, leftReceives.located, rightReceives.located, leftReceives.noNull]
  simp only [sameEntry]

theorem append_alike (bytes : ByteArray) :
    Alike place left right (left.append path bytes) (right.append path bytes) := by
  rw [append, append, leftReceives.locateFor_eq, rightReceives.locateFor_eq]
  simp only [sameEntry]
  cases right.entryAt? place with
  | none => exact .put bytes
  | some entry =>
      cases entry with
      | directory => exact .failed _
      | file content => exact .put (content ++ bytes)

theorem replace_alike (bytes : ByteArray) :
    Alike place left right (left.replace path bytes) (right.replace path bytes) := by
  rw [replace, replace, leftReceives.locateFor_eq, rightReceives.locateFor_eq]
  simp only [sameEntry]
  cases right.entryAt? place with
  | none => exact .put bytes
  | some entry =>
      cases entry with
      | directory => exact .failed _
      | file content => exact .put bytes

end

end Workspace

namespace Folder

section
variable
  {folder : Folder}
  {name : String}
  {left right : Workspace}
  {place : List String}
  (leftReceives : left.Receives (folder.tablePath name) place)
  (rightReceives : right.Receives (folder.tablePath name) place)
  (sameEntry : left.entryAt? place = right.entryAt? place)
include leftReceives rightReceives sameEntry

theorem appendLine_alike (line : String) :
    Workspace.Alike place left right (appendLine left (folder.tablePath name) line)
      (appendLine right (folder.tablePath name) line) := by
  have takes : takesLine left (folder.tablePath name) =
      takesLine right (folder.tablePath name) := by
    rw [takesLine, takesLine, Workspace.isPresent_alike leftReceives rightReceives sameEntry,
      Workspace.read_alike leftReceives rightReceives sameEntry]
  rw [appendLine, appendLine, takes]
  cases takesLine right (folder.tablePath name) with
  | error fault => exact .failed fault
  | ok atLineStart => exact Workspace.append_alike leftReceives rightReceives sameEntry _

/-- Appending a row comes to the same where the entries of the data file agree. -/
theorem appendTo_alike (row : Row) :
    Workspace.Alike place left right (folder.appendTo name row left)
      (folder.appendTo name row right) := by
  unfold appendTo
  cases DataFile.encode row with
  | error fault => exact .failed _
  | ok line =>
      have written := appendLine_alike leftReceives rightReceives sameEntry line
      dsimp only
      revert written
      generalize appendLine left (folder.tablePath name) line = leftResult
      generalize appendLine right (folder.tablePath name) line = rightResult
      rintro (fault | bytes)
      · cases fault <;> exact .failed _
      · exact .put bytes

/-- Overwriting a table comes to the same where the entries of the data file agree. -/
theorem overwriteWith_alike (rows : List Row) :
    Workspace.Alike place left right (folder.overwriteWith name rows left)
      (folder.overwriteWith name rows right) := by
  unfold overwriteWith
  cases DataFile.encodeAll rows with
  | error fault => exact .failed _
  | ok lines =>
      rcases Workspace.temporaryPlace_alike leftReceives rightReceives with
        ⟨fault, leftFailed, rightFailed⟩ | ⟨⟨leftAbove, leftMade⟩, rightAbove, rightMade⟩
      · simp only [leftFailed, rightFailed]
        exact .failed _
      · simp only [leftMade, rightMade]
        have written := Workspace.replace_alike leftReceives rightReceives sameEntry
          (DataFile.textOf lines).toUTF8
        revert written
        generalize left.replace (folder.tablePath name) _ = leftResult
        generalize right.replace (folder.tablePath name) _ = rightResult
        rintro (fault | bytes)
        · cases fault <;> exact .failed _
        · exact .put bytes

end

end Folder

/-! ## The directory of the data files -/

namespace Workspace

/-- If one file of a directory can be found, the directory is there. -/
theorem exists_directory_of_locate
    {workspace : Workspace}
    {path : Path}
    {name : String}
    (isFileName : Path.IsFileName name)
    {place : List String}
    (located : workspace.locate (path.join name) = .ok place) :
    ∃ above, workspace.locate path = .ok above ∧ workspace.entryAt? above = some .directory := by
  obtain ⟨short, relative, followed⟩ := (locate_eq_ok_iff ..).1 located
  rw [isFileName.join_eq] at short relative followed
  obtain ⟨above, reached, isDirectory⟩ := exists_directory_of_follow (grounded_nil _) followed
  have shorter := Path.parent_size_le ⟨path.root, path.components ++ [name]⟩
  rw [Path.parent, List.dropLast_concat] at shorter
  exact ⟨above, (locate_eq_ok_iff ..).2 ⟨shorter.trans short, relative, reached⟩, isDirectory⟩

/-- In a directory that is there, only the length of a name can keep a file from being found. -/
theorem exists_place_of_directory
    {workspace : Workspace}
    {path : Path}
    {name : String}
    (isFileName : Path.IsFileName name)
    {above : List String}
    (located : workspace.locate path = .ok above)
    (isDirectory : workspace.entryAt? above = some .directory)
    (notLong : workspace.locate (path.join name) ≠ .error .nameTooLong) :
    ∃ place, workspace.locate (path.join name) = .ok place := by
  obtain ⟨_, relative, followed⟩ := (locate_eq_ok_iff ..).1 located
  have proper : name ≠ ".." := by
    rintro rfl
    exact isFileName.proper (by simp)
  have reached := follow_concat_of_directory followed isDirectory proper
  rw [isFileName.join_eq] at notLong ⊢
  simp only [locate, relative, reached, ne_eq, not_true, if_false] at notLong ⊢
  split at notLong
  · exact absurd rfl notLong
  · rename_i pathShort
    split at notLong
    · exact absurd rfl notLong
    · rename_i nameShort
      exact ⟨_, by rw [if_neg pathShort, if_neg nameShort]⟩

end Workspace

namespace Folder

/-- In a folder with plain names that has been loaded, the data file of every table is received at
some place. -/
theorem Plain.exists_receives
    {folder : Folder}
    (plain : folder.Plain)
    {workspace : Workspace}
    {catalog : Catalog}
    (loaded : (folder.load workspace).result = .ok catalog)
    {name : String}
    (member : name ∈ catalog.names) :
    ∃ place, workspace.Receives (folder.tablePath name) place := by
  have isName := isName_of_load loaded name member
  have isFileName := plain.isFileName isName
  obtain ⟨_, schemas, readSchemas, loads⟩ := load_eq_ok loaded
  obtain ⟨_, schemaContent, _⟩ := (readSchemas_eq_ok_iff ..).1 readSchemas
  obtain ⟨_, _, schemaLocated, _⟩ := (Workspace.read_eq_ok_iff ..).1 schemaContent
  obtain ⟨above, aboveLocated, isDirectory⟩ :=
    Workspace.exists_directory_of_locate plain.schemaFile schemaLocated
  have noNull := plain.holdsNull_tablePath readSchemas isName
  have notLong : workspace.locate (folder.tablePath name) ≠ .error .nameTooLong := by
    obtain ⟨table, inTables, named⟩ := List.mem_filterMap.1 member
    obtain ⟨own, _, read⟩ := DataFile.exists_of_mem_right loads inTables
    obtain rfl : own.1 = name := Option.some.inj (read.name_eq.symm.trans named)
    obtain ⟨content, hasContent, _⟩ := holdsRows_of_readRows read.rows_eq
    cases content with
    | none =>
        rcases (Workspace.isPresent_eq_ok_false_iff ..).1 hasContent with null | ⟨_, notLong⟩
        · simp [noNull] at null
        · exact notLong
    | some bytes =>
        obtain ⟨_, _, located, _⟩ := (Workspace.read_eq_ok_iff ..).1 hasContent
        simp [located]
  obtain ⟨place, located⟩ :=
    Workspace.exists_place_of_directory isFileName aboveLocated isDirectory notLong
  refine ⟨place, noNull, located, above, ?_, isDirectory⟩
  rw [tablePath, isFileName.join_eq, Path.parent, List.dropLast_concat]
  exact aboveLocated

end Folder
end Storage
end FlatTables
