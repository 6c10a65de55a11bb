import FlatTables.Proofs.Storage.Footprint
import FlatTables.Storage.Operation

/-!
# Temporary files

An entry that is put at a free place and removed again leaves a workspace as it was. A temporary
file stands at such a place, and it is not in the way of the file it is moved over, whose name is
shorter.
-/

namespace FlatTables
namespace Storage
namespace Workspace

open Operation

/-! ## Entries that come and go -/

section
variable {workspace : Workspace} {place : List String}

theorem entryAt?_eq_none_iff :
    workspace.entryAt? place = none ↔
      place ≠ [] ∧ ∀ entry ∈ workspace.entries, entry.1 ≠ place := by
  unfold entryAt?
  by_cases root : place = []
  · simp [root]
  · rw [if_neg root, List.lookup_eq_none_iff, and_iff_right root]
    exact forall₂_congr fun entry _ => bne_iff_ne.trans ne_comm

/-- What is put at a place last stands there. -/
theorem insert_insert (first second : Entry) :
    (workspace.insert place first).insert place second = workspace.insert place second := by
  have known : (workspace.insert place first).entries.any (·.1 = place) = true := by
    unfold insert
    split
    · rename_i known
      obtain ⟨old, member, atPlace⟩ := List.any_eq_true.1 known
      refine List.any_eq_true.2 ⟨(place, first), List.mem_map.2 ⟨old, member, ?_⟩, by simp⟩
      rw [if_pos (of_decide_eq_true atPlace)]
    · simp
  conv_lhs => rw [insert, if_pos known]
  unfold insert
  split
  · simp only [List.map_map, mk.injEq]
    refine List.map_congr_left fun old _ => ?_
    by_cases atPlace : old.1 = place <;> simp [atPlace]
  · rename_i unknown
    have others : ∀ old ∈ workspace.entries, old.1 ≠ place := fun old member atPlace =>
      unknown (List.any_eq_true.2 ⟨old, member, decide_eq_true atPlace⟩)
    simp only [List.map_append, mk.injEq]
    congr 1
    · conv_rhs => rw [← List.map_id workspace.entries]
      exact List.map_congr_left fun old member => if_neg (others old member)
    · simp

section
variable (free : workspace.entryAt? place = none)
include free

/-- An entry at a free place is the last one. -/
private theorem insert_of_free (entry : Entry) :
    workspace.insert place entry = { entries := workspace.entries ++ [(place, entry)] } := by
  have unknown : workspace.entries.any (·.1 = place) = false := by
    simpa using (entryAt?_eq_none_iff.1 free).2
  simp only [insert, unknown, Bool.false_eq_true, if_false]

private theorem unlink_of_free : workspace.unlink place = workspace := by
  rw [unlink, List.filter_eq_self.2]
  exact fun entry member => decide_eq_true ((entryAt?_eq_none_iff.1 free).2 entry member)

/-- Nothing remains of an entry that is removed from a place that was free. -/
theorem unlink_insert (entry : Entry) :
    (workspace.insert place entry).unlink place = workspace := by
  conv_rhs => rw [← unlink_of_free free]
  rw [insert_of_free free, unlink, unlink, List.filter_append]
  simp

/-- An entry at a free place can be removed before or after another is put elsewhere. -/
theorem unlink_insert_insert
    {other : List String}
    (differs : other ≠ place)
    (entry content : Entry) :
    ((workspace.insert place entry).insert other content).unlink place =
      workspace.insert other content := by
  have apart : place ≠ other := Ne.symm differs
  have stillFree : (workspace.insert other content).entryAt? place = none := by
    obtain ⟨nonempty, absent⟩ := entryAt?_eq_none_iff.1 free
    refine entryAt?_eq_none_iff.2 ⟨nonempty, fun old member => ?_⟩
    unfold insert at member
    split at member
    · obtain ⟨older, olderMember, rfl⟩ := List.mem_map.1 member
      split
      · exact differs
      · exact absent older olderMember
    · rcases List.mem_append.1 member with before | isNew
      · exact absent old before
      · rw [List.mem_singleton.1 isNew]
        exact differs
  rw [insert_of_free free]
  have swapped : (insert { entries := workspace.entries ++ [(place, entry)] } other
      content).unlink place = (workspace.insert other content).unlink place := by
    unfold insert unlink
    simp only [List.any_append, List.any_cons, List.any_nil, apart, decide_false, Bool.or_false]
    split <;> simp [List.filter_append, apart, differs]
  rw [swapped, unlink_of_free stillFree]

end

end

/-! ## Appending in parts -/

/-- The bytes of the file at a place; there are none if there is no file. -/
def contentAt (workspace : Workspace) (place : List String) : ByteArray :=
  match workspace.entryAt? place with
  | some (.file content) => content
  | _ => .empty

/-- Appending finds the place, refuses a directory, and adds to what is there. -/
theorem append_eq
    (workspace : Workspace)
    (path : Path)
    (bytes : ByteArray) :
    workspace.append path bytes =
      match workspace.locateFor path [path.text] with
      | .error fault => .error fault
      | .ok place =>
          if workspace.entryAt? place = some .directory then
            .error (.system (Obstacle.isDirectory.fault [path.text]))
          else .ok (workspace.insert place (.file (workspace.contentAt place ++ bytes))) := by
  unfold append
  cases workspace.locateFor path [path.text] with
  | error fault => rfl
  | ok place =>
      cases entry : workspace.entryAt? place with
      | none => simp [contentAt, entry]
      | some own => cases own <;> simp [contentAt, entry]

/-- Whether a path can be appended to does not depend on the bytes, and appending twice comes to
appending both at once. -/
theorem append_append
    {before middle : Workspace}
    {path : Path}
    {first : ByteArray}
    (appended : before.append path first = .ok middle)
    (second : ByteArray) :
    middle.append path second = before.append path (first ++ second) := by
  obtain ⟨content, puts⟩ := exists_puts_of_append appended
  rw [append_eq] at appended
  cases located : before.locateFor path [path.text] with
  | error fault => simp [located] at appended
  | ok place =>
      obtain ⟨noNull, locate⟩ := (locateFor_eq_ok_iff ..).1 located
      have locatedAfter : middle.locateFor path [path.text] = .ok place :=
        (locateFor_eq_ok_iff ..).2 ⟨noNull, (puts.samePlaces.located path place).2 locate⟩
      simp only [located] at appended
      split at appended
      · cases appended
      · rename_i notDirectory
        obtain rfl := Except.ok.inj appended
        have entry :
            (before.insert place (.file (before.contentAt place ++ first))).entryAt? place =
              some (.file (before.contentAt place ++ first)) := by
          rw [entryAt?_insert _ (nonempty_of_entryAt? notDirectory), if_pos rfl]
        have content : (before.insert place
            (.file (before.contentAt place ++ first))).contentAt place =
              before.contentAt place ++ first := by
          rw [contentAt, entry]
        rw [append_eq, append_eq, locatedAfter, located]
        simp only [entry, notDirectory, content, insert_insert, ByteArray.append_assoc,
          reduceCtorEq, Option.some.injEq, if_false]

theorem append_eq_error
    {before : Workspace}
    {path : Path}
    {first : ByteArray}
    {fault : AccessFault}
    (refused : before.append path first = .error fault)
    (second : ByteArray) :
    before.append path second = .error fault := by
  rw [append_eq] at refused ⊢
  cases located : before.locateFor path [path.text] with
  | error own =>
      rw [located] at refused
      exact refused
  | ok place =>
      simp only [located] at refused ⊢
      split at refused
      · rename_i isDirectory
        rw [if_pos isDirectory]
        exact refused
      · cases refused

/-! ## Replacing through a temporary file -/

/-- The place a path leads to is not that of a temporary file for it, whose name is longer. -/
theorem ne_temporary
    {workspace : Workspace}
    {path : Path}
    {place : List String}
    (located : workspace.locate path = .ok place)
    (notDirectory : workspace.entryAt? place ≠ some .directory)
    (directory : List String)
    (candidate : String) :
    place ≠ directory ++ [temporaryNameFor path candidate] := by
  rintro rfl
  obtain ⟨_, _, followed⟩ := (locate_eq_ok_iff ..).1 located
  have last := named_of_follow (grounded_nil workspace) followed notDirectory
  have named : path.name = temporaryNameFor path candidate := by
    rw [Path.name, ← last]
    simp
  have size := congrArg String.utf8ByteSize named
  simp only [temporaryNameFor, String.utf8ByteSize_append] at size
  have dot : 0 < (".").utf8ByteSize := by decide
  omega

/-- A null character in a path is noticed when a temporary file is made, unless it stands before
double dots. -/
theorem climbs_of_temporaryPlace
    {workspace : Workspace}
    {path : Path}
    {directory : List String}
    (located : workspace.temporaryPlace path = .ok directory)
    (null : holdsNull path.text = true) :
    ".." ∈ path.components := by
  unfold temporaryPlace at located
  split at located
  · cases located
  · rename_i nameNoNull
    by_contra level
    have settled : path.parent.settled = path.parent := by
      have levelParent : ".." ∉ path.parent.components :=
        fun member => level (List.dropLast_subset _ member)
      rw [Path.settled, settle_of_notMem levelParent, List.nil_append]
    cases followed : workspace.locateFor path.parent.settled [temporaryName] with
    | error fault => simp [followed] at located
    | ok place =>
        obtain ⟨parentNoNull, _⟩ := (locateFor_eq_ok_iff ..).1 followed
        rw [settled, ← Bool.not_eq_true, holdsNull_text_iff, not_or] at parentNoNull
        rcases (holdsNull_text_iff path).1 null with inRoot | ⟨name, member, inName⟩
        · exact parentNoNull.1 inRoot
        · rcases List.eq_nil_or_concat path.components with empty | ⟨above, last, split⟩
          · simp [empty] at member
          · rw [List.concat_eq_append] at split
            rw [split] at member
            rcases List.mem_append.1 member with isAbove | isLast
            · refine parentNoNull.2 ⟨name, ?_, inName⟩
              rwa [Path.parent, split, List.dropLast_concat]
            · refine nameNoNull ?_
              rw [Path.name, split, List.getLast?_concat, Option.getD_some,
                ← List.mem_singleton.1 isLast]
              simpa [holdsNull] using inName

/-- Where a temporary file has been made, moving it over a path puts its content there and nothing
else. -/
theorem puts_of_moveOver
    {before after : Workspace}
    {path : Path}
    {directory : List String}
    {candidate : String}
    (free : before.entryAt? (directory ++ [temporaryNameFor path candidate]) = none)
    {bytes : ByteArray}
    (replaced : (before.insert (directory ++ [temporaryNameFor path candidate])
      (.file bytes)).replace path bytes = .ok after) :
    Puts before path bytes (after.unlink (directory ++ [temporaryNameFor path candidate])) := by
  set temporary := directory ++ [temporaryNameFor path candidate] with isTemporary
  have nonempty : temporary ≠ [] := by simp [isTemporary]
  have samePlaces : SamePlaces before (before.insert temporary (.file bytes)) :=
    samePlaces_insert before nonempty (by simp [free]) bytes
  obtain ⟨noNull, place, locatedAfter, notDirectory, rfl⟩ := puts_of_replace replaced
  have located := (samePlaces.located path place).1 locatedAfter
  have differs : place ≠ temporary := ne_temporary locatedAfter notDirectory directory candidate
  rw [entryAt?_insert _ nonempty, if_neg differs] at notDirectory
  exact ⟨noNull, place, located, notDirectory, unlink_insert_insert free differs _ _⟩

/-- Components lead where they led before an entry was put at a place whose name is not one of
them. -/
theorem follow_insert_of_notMem
    (workspace : Workspace)
    {directory : List String}
    {name : String}
    (entry : Entry)
    {components : List String}
    (unnamed : name ∉ components)
    (start : List String) :
    (workspace.insert (directory ++ [name]) entry).follow start components =
      workspace.follow start components := by
  have nonempty : directory ++ [name] ≠ [] := by simp
  have elsewhere : ∀ (above : List String) (own : String), own ≠ name →
      (workspace.insert (directory ++ [name]) entry).entryAt? (above ++ [own]) =
        workspace.entryAt? (above ++ [own]) := by
    intro above own differs
    rw [entryAt?_insert _ nonempty, if_neg]
    intro same
    exact differs (List.singleton_inj.1 (List.append_inj' same rfl).2)
  fun_induction follow workspace start components with
  | case1 start => rfl
  | case2 rest => simp [follow]
  | case3 start rest below inductionHypothesis =>
      rw [follow, if_neg below]
      exact inductionHypothesis (mt (List.mem_cons_of_mem _) unnamed)
  | case4 start own rest notParent long => simp [follow, long]
  | case5 start own notParent short => simp [follow, short]
  | case6 start own rest notParent short more found inductionHypothesis =>
      obtain ⟨differs, others⟩ := not_or.1 (mt List.mem_cons.2 unnamed)
      simpa [follow, short, more, elsewhere start own (Ne.symm differs), found] using
        inductionHypothesis others
  | case7 start own rest notParent short more content found =>
      obtain ⟨differs, _⟩ := not_or.1 (mt List.mem_cons.2 unnamed)
      simp [follow, short, more, elsewhere start own (Ne.symm differs), found]
  | case8 start own rest notParent short more found =>
      obtain ⟨differs, _⟩ := not_or.1 (mt List.mem_cons.2 unnamed)
      simp [follow, short, more, elsewhere start own (Ne.symm differs), found]

/-- A temporary file whose name is not one in the path does not matter for replacing the file. -/
theorem replace_insert
    {before : Workspace}
    {path : Path}
    {directory : List String}
    {candidate : String}
    (free : before.entryAt? (directory ++ [temporaryNameFor path candidate]) = none)
    (unnamed : temporaryNameFor path candidate ∉ path.components)
    (bytes : ByteArray) :
    ((before.insert (directory ++ [temporaryNameFor path candidate]) (.file bytes)).replace path
        bytes).map (·.unlink (directory ++ [temporaryNameFor path candidate])) =
      before.replace path bytes := by
  set temporary := directory ++ [temporaryNameFor path candidate] with isTemporary
  have nonempty : temporary ≠ [] := by simp [isTemporary]
  have sameLocation : (before.insert temporary (.file bytes)).locateFor path
      [temporaryName, path.text] = before.locateFor path [temporaryName, path.text] := by
    rw [locateFor, locateFor, locate, locate, follow_insert_of_notMem before _ unnamed]
  unfold replace
  dsimp only
  rw [sameLocation]
  cases located : before.locateFor path [temporaryName, path.text] with
  | error fault => rfl
  | ok place =>
      obtain ⟨_, locate⟩ := (locateFor_eq_ok_iff ..).1 located
      have differs : place ≠ temporary := by
        rcases eq_or_ne (before.entryAt? place) (some .directory) with isDirectory | notDirectory
        · rintro rfl
          rw [free] at isDirectory
          cases isDirectory
        · exact ne_temporary locate notDirectory directory candidate
      dsimp only
      rw [entryAt?_insert _ nonempty, if_neg differs]
      have moved := unlink_insert_insert free differs (.file bytes) (.file bytes)
      cases before.entryAt? place with
      | none => exact congrArg Except.ok moved
      | some own =>
          cases own with
          | directory => rfl
          | file content => exact congrArg Except.ok moved

/-! ## Replacing again -/

section
variable
  {before after : Workspace}
  {path : Path}
  {bytes : ByteArray}
  (puts : Puts before path bytes after)
include puts

/-- A file that is replaced by its own content stays as it is. -/
theorem Puts.replace_again : after.replace path bytes = .ok after := by
  obtain ⟨place, located, notDirectory, inserted⟩ := puts.inserted
  have locatedAfter : after.locateFor path [temporaryName, path.text] = .ok place :=
    (locateFor_eq_ok_iff ..).2 ⟨puts.noNull, (puts.samePlaces.located path place).2 located⟩
  have entry : after.entryAt? place = some (.file bytes) := by
    rw [inserted, entryAt?_insert _ (nonempty_of_entryAt? notDirectory), if_pos rfl]
  simp only [replace, locatedAfter, entry]
  rw [inserted, insert_insert]

/-- Where a temporary file could be made, it still can. -/
theorem Puts.temporaryPlace_eq
    {other : Path}
    {directory : List String}
    (made : before.temporaryPlace other = .ok directory) :
    after.temporaryPlace other = .ok directory := by
  unfold temporaryPlace at made ⊢
  split at made
  · cases made
  · rename_i nameNoNull
    rw [if_neg nameNoNull]
    cases followed : before.locateFor other.parent.settled [temporaryName] with
    | error fault => simp [followed] at made
    | ok place =>
        obtain ⟨noNull, located⟩ := (locateFor_eq_ok_iff ..).1 followed
        have followedAfter : after.locateFor other.parent.settled [temporaryName] = .ok place :=
          (locateFor_eq_ok_iff ..).2 ⟨noNull, (puts.samePlaces.located _ place).2 located⟩
        simp only [followed] at made
        cases entry : before.entryAt? place with
        | none => simp [entry] at made
        | some own =>
            cases own with
            | file content => simp [entry] at made
            | directory =>
                simp only [entry] at made
                simp only [followedAfter, puts.entryAt?_directory entry]
                exact made

end

end Workspace

namespace Folder

/-- Rows that were put in place of a file can be put there again, and then nothing changes. -/
theorem overwriteWith_again
    {folder : Folder}
    {name : String}
    {rows : List Row}
    {before after : Workspace}
    (overwritten : folder.overwriteWith name rows before = .ok after) :
    folder.overwriteWith name rows after = .ok after := by
  obtain ⟨lines, encoded, puts⟩ := overwriteWith_eq_ok overwritten
  simp only [overwriteWith, encoded] at overwritten ⊢
  cases made : before.temporaryPlace (folder.tablePath name) with
  | error fault => simp [made] at overwritten
  | ok directory => simp only [puts.temporaryPlace_eq made, puts.replace_again]

/-- Overwriting a table a second time leaves every file as it is after the first time. -/
theorem overwrite_again
    (folder : Folder)
    (table : Table)
    (before : Workspace) :
    let after := (folder.overwrite table before).state before
    (folder.overwrite table after).state after = after := by
  intro after
  cases name : table.name with
  | none => simp [overwrite, name, WriteReport.state]
  | some own =>
      simp only [after, WriteReport.state, folder.overwrite_result name]
      cases written : folder.overwriteWith own table.rows before with
      | error fault => simp only [written]
      | ok once => simp only [overwriteWith_again written]

end Folder
end Storage
end FlatTables
