import FlatTables.Proofs.Except
import FlatTables.Proofs.Text.Lines
import FlatTables.Storage.Workspace

/-!
# Putting a file in a workspace

Appending to a file and replacing it come to the same: one file has a new content, and every path
leads where it led before. A path that leads to another place is not affected, and since no
directory is touched, two paths lead to different places afterwards if they did before.
-/

namespace FlatTables
namespace Storage
namespace Workspace

private theorem lookup_map_replace
    (entries : List (List String × Entry))
    (place other : List String)
    (entry : Entry) :
    (entries.map fun old => if old.1 = place then (place, entry) else old).lookup other =
      if other = place then (entries.lookup place).map fun _ => entry
      else entries.lookup other := by
  induction entries with
  | nil => simp
  | cons first rest inductionHypothesis =>
      obtain ⟨own, content⟩ := first
      by_cases same : other = own
      · subst same
        by_cases atPlace : other = place
        · simp [atPlace]
        · simp [atPlace]
      · have otherOwn : (other == own) = false := beq_eq_false_iff_ne.2 same
        by_cases here : own = place
        · subst here
          simp [List.lookup_cons, otherOwn, same, inductionHypothesis]
        · have placeOwn : (place == own) = false := beq_eq_false_iff_ne.2 (Ne.symm here)
          simp [List.lookup_cons, otherOwn, placeOwn, here, inductionHypothesis]

/-- An entry put at a place stands there, and nothing else has changed. -/
theorem entryAt?_insert
    (workspace : Workspace)
    {place : List String}
    (nonempty : place ≠ [])
    (entry : Entry)
    (other : List String) :
    (workspace.insert place entry).entryAt? other =
      if other = place then some entry else workspace.entryAt? other := by
  unfold insert entryAt?
  by_cases root : other = []
  · simp [root, Ne.symm nonempty]
  · simp only [if_neg root]
    cases known : workspace.entries.any (·.1 = place) with
    | true =>
        simp only [if_true, lookup_map_replace]
        by_cases atPlace : other = place
        · obtain ⟨old, member, placeEq⟩ := List.any_eq_true.1 known
          have found : (workspace.entries.lookup place).isSome := by
            rw [List.lookup_isSome_iff]
            exact ⟨old, member, by simpa using (of_decide_eq_true placeEq).symm⟩
          obtain ⟨content, lookup⟩ := Option.isSome_iff_exists.1 found
          rw [if_pos atPlace, if_pos atPlace, lookup, Option.map_some]
        · rw [if_neg atPlace, if_neg atPlace]
    | false =>
        simp only [Bool.false_eq_true, if_false, List.lookup_append]
        by_cases atPlace : other = place
        · have absent : workspace.entries.lookup place = none := by
            rw [List.lookup_eq_none_iff]
            intro old member
            have differs := of_decide_eq_false
              (Bool.eq_false_iff.2 (List.any_eq_false.1 known old member))
            exact bne_iff_ne.2 (Ne.symm differs)
          rw [atPlace, absent]
          simp
        · have offPlace : (other == place) = false := beq_eq_false_iff_ne.2 atPlace
          simp [List.lookup_cons, offPlace, atPlace]

/-! ## Following paths -/

/-- Where a file has been put, components lead to the same place as before; a file put where
nothing was can only make a missing component one that is no directory. -/
private theorem follow_insert
    (workspace : Workspace)
    {place : List String}
    (nonempty : place ≠ [])
    (notDirectory : workspace.entryAt? place ≠ some .directory)
    (bytes : ByteArray)
    (start components : List String) :
    (workspace.insert place (.file bytes)).follow start components =
        workspace.follow start components ∨
      workspace.follow start components = .error .notFound ∧
        (workspace.insert place (.file bytes)).follow start components =
          .error .notDirectory := by
  fun_induction follow workspace start components with
  | case1 start => exact .inl rfl
  | case2 rest => exact .inl (by simp [follow])
  | case3 start rest below inductionHypothesis =>
      simpa [follow, below] using inductionHypothesis
  | case4 start name rest notParent long => exact .inl (by simp [follow, long])
  | case5 start name notParent short => exact .inl (by simp [follow, short])
  | case6 start name rest notParent short more found inductionHypothesis =>
      have elsewhere : start ++ [name] ≠ place := by
        rintro rfl
        exact notDirectory found
      simpa [follow, short, more, entryAt?_insert _ nonempty, elsewhere, found] using
        inductionHypothesis
  | case7 start name rest notParent short more content found =>
      refine .inl ?_
      by_cases here : start ++ [name] = place
      · simp [follow, short, more, entryAt?_insert _ nonempty, here]
      · simp [follow, short, more, entryAt?_insert _ nonempty, here, found]
  | case8 start name rest notParent short more found =>
      by_cases here : start ++ [name] = place
      · refine .inr ⟨rfl, ?_⟩
        simp [follow, short, more, entryAt?_insert _ nonempty, here]
      · refine .inl ?_
        simp [follow, short, more, entryAt?_insert _ nonempty, here, found]

/-- Every path leads to the same place in both workspaces, or fails for the length of a name in
both, or fails for another reason in both. -/
structure SamePlaces (before after : Workspace) : Prop where
  located : ∀ path place, after.locate path = .ok place ↔ before.locate path = .ok place
  tooLong : ∀ path, after.locate path = .error .nameTooLong ↔
    before.locate path = .error .nameTooLong

theorem SamePlaces.trans
    {before middle after : Workspace}
    (first : SamePlaces before middle)
    (second : SamePlaces middle after) :
    SamePlaces before after where
  located path place := (second.located path place).trans (first.located path place)
  tooLong path := (second.tooLong path).trans (first.tooLong path)

theorem samePlaces_insert
    (workspace : Workspace)
    {place : List String}
    (nonempty : place ≠ [])
    (notDirectory : workspace.entryAt? place ≠ some .directory)
    (bytes : ByteArray) :
    SamePlaces workspace (workspace.insert place (.file bytes)) := by
  have followed : ∀ path : Path,
      (workspace.insert place (.file bytes)).locate path = workspace.locate path ∨
        workspace.locate path = .error .notFound ∧
          (workspace.insert place (.file bytes)).locate path = .error .notDirectory := by
    intro path
    unfold locate
    split
    · exact .inl rfl
    · split
      · exact .inl rfl
      · exact follow_insert workspace nonempty notDirectory bytes [] path.components
  constructor
  · intro path other
    rcases followed path with same | ⟨old, new⟩
    · rw [same]
    · simp [old, new]
  · intro path
    rcases followed path with same | ⟨old, new⟩
    · rw [same]
    · simp [old, new]

/-! ## Contents -/

/-- The file at a path has a content, or there is nothing at the path. -/
def HasContent (workspace : Workspace) (path : Path) : Option ByteArray → Prop
  | none => workspace.isPresent path = .ok false
  | some bytes => workspace.read path = .ok bytes

/-- Two paths do not lead to one place. -/
def Apart (workspace : Workspace) (first second : Path) : Prop :=
  ∀ place, workspace.locate first = .ok place → workspace.locate second ≠ .ok place

theorem SamePlaces.apart
    {before after : Workspace}
    (samePlaces : SamePlaces before after)
    {first second : Path}
    (apart : before.Apart first second) :
    after.Apart first second := by
  intro place located also
  exact apart place ((samePlaces.located first place).1 located)
    ((samePlaces.located second place).1 also)

theorem locateFor_eq_ok_iff
    (workspace : Workspace)
    (path : Path)
    (mentioned : List String)
    (place : List String) :
    workspace.locateFor path mentioned = .ok place ↔
      holdsNull path.text = false ∧ workspace.locate path = .ok place := by
  unfold locateFor
  cases holdsNull path.text with
  | true => simp
  | false => simp [mapError_eq_ok_iff]

theorem read_eq_ok_iff
    (workspace : Workspace)
    (path : Path)
    (bytes : ByteArray) :
    workspace.read path = .ok bytes ↔
      ∃ place, holdsNull path.text = false ∧ workspace.locate path = .ok place ∧
        workspace.entryAt? place = some (.file bytes) := by
  unfold read
  cases located : workspace.locateFor path [path.text] with
  | error fault =>
      simp only [reduceCtorEq, false_iff]
      rintro ⟨place, noNull, locate, _⟩
      rw [(locateFor_eq_ok_iff ..).2 ⟨noNull, locate⟩] at located
      cases located
  | ok place =>
      obtain ⟨noNull, locate⟩ := (locateFor_eq_ok_iff ..).1 located
      cases entry : workspace.entryAt? place with
      | none => simp [noNull, locate, entry]
      | some own => cases own <;> simp [noNull, locate, entry]

/-- A file that can be read is there. -/
theorem isPresent_of_read
    {workspace : Workspace}
    {path : Path}
    {bytes : ByteArray}
    (read : workspace.read path = .ok bytes) :
    workspace.isPresent path = .ok true := by
  obtain ⟨place, noNull, located, entry⟩ := (read_eq_ok_iff ..).1 read
  simp [isPresent, noNull, located, entry]

theorem isPresent_eq_ok_false_iff
    (workspace : Workspace)
    (path : Path) :
    workspace.isPresent path = .ok false ↔
      holdsNull path.text = true ∨
        (∀ place, workspace.locate path = .ok place → workspace.entryAt? place = none) ∧
          workspace.locate path ≠ .error .nameTooLong := by
  unfold isPresent
  cases holdsNull path.text with
  | true => simp
  | false =>
      cases located : workspace.locate path with
      | ok place => cases entry : workspace.entryAt? place <;> simp [entry]
      | error obstacle => cases obstacle <;> simp

/-- A file with a content is there. -/
theorem HasContent.not_some
    {workspace : Workspace}
    {path : Path}
    {bytes : ByteArray}
    (absent : workspace.HasContent path none) :
    ¬ workspace.HasContent path (some bytes) := by
  intro hasContent
  obtain ⟨place, noNull, located, entry⟩ := (read_eq_ok_iff ..).1 hasContent
  rcases (isPresent_eq_ok_false_iff ..).1 absent with null | ⟨nothing, _⟩
  · simp [noNull] at null
  · simp [nothing place located] at entry

/-- One file has got a new content; nothing else has changed. -/
structure Puts (before : Workspace) (path : Path) (bytes : ByteArray) (after : Workspace) :
    Prop where
  noNull : holdsNull path.text = false
  inserted : ∃ place, before.locate path = .ok place ∧
    before.entryAt? place ≠ some .directory ∧ after = before.insert place (.file bytes)

theorem nonempty_of_entryAt?
    {workspace : Workspace}
    {place : List String}
    (notDirectory : workspace.entryAt? place ≠ some .directory) :
    place ≠ [] := by
  rintro rfl
  exact notDirectory rfl

section
variable
  {before after : Workspace}
  {path : Path}
  {bytes : ByteArray}
  (puts : Puts before path bytes after)
include puts

theorem Puts.samePlaces : SamePlaces before after := by
  obtain ⟨place, _, notDirectory, rfl⟩ := puts.inserted
  exact samePlaces_insert before (nonempty_of_entryAt? notDirectory) notDirectory bytes

/-- The file has its new content. -/
theorem Puts.hasContent : after.HasContent path (some bytes) := by
  have samePlaces := puts.samePlaces
  obtain ⟨place, located, notDirectory, rfl⟩ := puts.inserted
  refine (read_eq_ok_iff ..).2 ⟨place, puts.noNull, (samePlaces.located path place).2 located, ?_⟩
  rw [entryAt?_insert _ (nonempty_of_entryAt? notDirectory), if_pos rfl]

/-- The content at a path that leads elsewhere is the same as before. -/
theorem Puts.frame
    {other : Path}
    (apart : before.Apart path other)
    {content : Option ByteArray}
    (hasContent : before.HasContent other content) :
    after.HasContent other content := by
  have samePlaces := puts.samePlaces
  obtain ⟨place, located, notDirectory, rfl⟩ := puts.inserted
  have elsewhere : ∀ own, before.locate other = .ok own →
      (before.insert place (.file bytes)).entryAt? own = before.entryAt? own := by
    intro own ownLocated
    have differs : own ≠ place := by
      rintro rfl
      exact apart own located ownLocated
    rw [entryAt?_insert _ (nonempty_of_entryAt? notDirectory), if_neg differs]
  cases content with
  | none =>
      refine (isPresent_eq_ok_false_iff ..).2 ?_
      refine ((isPresent_eq_ok_false_iff ..).1 hasContent).imp id ?_
      rintro ⟨absent, notLong⟩
      refine ⟨fun own ownLocated => ?_, fun long => notLong ((samePlaces.tooLong other).1 long)⟩
      have ownLocated := (samePlaces.located other own).1 ownLocated
      rw [elsewhere own ownLocated, absent own ownLocated]
  | some content =>
      obtain ⟨own, noNull, ownLocated, entry⟩ := (read_eq_ok_iff ..).1 hasContent
      refine (read_eq_ok_iff ..).2
        ⟨own, noNull, (samePlaces.located other own).2 ownLocated, ?_⟩
      rw [elsewhere own ownLocated, entry]

end

/-! ## Appending and replacing -/

/-- Appending adds bytes to what the file holds, nothing if there is none. -/
theorem puts_of_append
    {before after : Workspace}
    {path : Path}
    {bytes : ByteArray}
    {content : Option ByteArray}
    (hasContent : before.HasContent path content)
    (appended : before.append path bytes = .ok after) :
    Puts before path (content.getD ByteArray.empty ++ bytes) after := by
  unfold append at appended
  cases located : before.locateFor path [path.text] with
  | error fault => simp [located] at appended
  | ok place =>
      obtain ⟨noNull, locate⟩ := (locateFor_eq_ok_iff ..).1 located
      simp only [located] at appended
      refine ⟨noNull, place, locate, ?_⟩
      cases content with
      | none =>
          have absent : before.entryAt? place = none := by
            rcases (isPresent_eq_ok_false_iff ..).1 hasContent with null | ⟨absent, _⟩
            · rw [noNull] at null
              cases null
            · exact absent place locate
          simp only [absent, Except.ok.injEq] at appended
          refine ⟨by simp [absent], ?_⟩
          rw [Option.getD_none, ByteArray.empty_append]
          exact appended.symm
      | some old =>
          obtain ⟨own, _, ownLocate, entry⟩ := (read_eq_ok_iff ..).1 hasContent
          obtain rfl := Except.ok.inj (locate.symm.trans ownLocate)
          simp only [entry, Except.ok.injEq] at appended
          exact ⟨by simp [entry], appended.symm⟩

theorem holdsNull_text_iff (path : Path) :
    holdsNull path.text = true ↔
      '\x00' ∈ path.root.toList ∨ ∃ name ∈ path.components, '\x00' ∈ name.toList := by
  have joined : '\x00' ∈ (path.root ++ String.intercalate "/" path.components).toList ↔
      '\x00' ∈ path.root.toList ∨ ∃ name ∈ path.components, '\x00' ∈ name.toList := by
    rw [String.toList_append, String.toList_intercalate, List.mem_append]
    refine or_congr .rfl ⟨fun member => ?_, ?_⟩
    · rcases Text.mem_intercalate member with inSeparator | ⟨field, inFields, inField⟩
      · exact absurd inSeparator (by decide)
      · obtain ⟨name, nameMember, rfl⟩ := List.mem_map.1 inFields
        exact ⟨name, nameMember, inField⟩
    · rintro ⟨name, nameMember, inName⟩
      exact Text.mem_intercalate_of_mem _ (List.mem_map_of_mem nameMember) inName
  rw [← joined, Path.text, holdsNull]
  by_cases empty : path.root ++ String.intercalate "/" path.components = ""
  · simp [empty]
  · simp [empty]

/-- Without a null character in a path there is none in its parts. -/
theorem holdsNull_parts
    {path : Path}
    (noNull : holdsNull path.text = false) :
    holdsNull path.parent.text = false ∧ holdsNull path.name = false := by
  simp only [← Bool.not_eq_true, holdsNull_text_iff, not_or, not_exists, not_and] at noNull ⊢
  obtain ⟨inRoot, inComponents⟩ := noNull
  refine ⟨⟨inRoot, fun name member => ?_⟩, ?_⟩
  · exact inComponents name (List.dropLast_subset _ member)
  · rw [holdsNull, Path.name]
    cases last : path.components.getLast? with
    | none => simp
    | some name => simpa using inComponents name (List.mem_of_getLast? last)

/-- Settling the double dots of a path leaves out components and changes none. -/
theorem settle_sublist (done components : List String) :
    (Path.settle done components).Sublist (done ++ components) := by
  induction components generalizing done with
  | nil => simp [Path.settle]
  | cons name rest inductionHypothesis =>
      rw [Path.settle]
      split
      · exact (inductionHypothesis done.dropLast).trans
          (done.dropLast_sublist.append (List.sublist_cons_self name rest))
      · simpa using inductionHypothesis (done ++ [name])

/-- Components without double dots are settled. -/
theorem settle_of_notMem
    {components : List String}
    (level : ".." ∉ components)
    (done : List String) :
    Path.settle done components = done ++ components := by
  induction components generalizing done with
  | nil => simp [Path.settle]
  | cons name rest inductionHypothesis =>
      obtain ⟨notDots, levelRest⟩ := not_or.1 (mt List.mem_cons.2 level)
      rw [Path.settle, if_neg fun climbs => notDots climbs.1.symm, inductionHypothesis levelRest]
      simp

theorem holdsNull_settled
    {path : Path}
    (noNull : holdsNull path.text = false) :
    holdsNull path.settled.text = false := by
  simp only [← Bool.not_eq_true, holdsNull_text_iff, not_or, not_exists, not_and] at noNull ⊢
  obtain ⟨inRoot, inComponents⟩ := noNull
  refine ⟨inRoot, fun name member => inComponents name ?_⟩
  exact (settle_sublist [] path.components).subset member

/-- Replacing a file gives it the new content. -/
theorem puts_of_replace
    {before after : Workspace}
    {path : Path}
    {bytes : ByteArray}
    (replaced : before.replace path bytes = .ok after) :
    Puts before path bytes after := by
  unfold replace at replaced
  cases located : before.locateFor path [temporaryName, path.text] with
  | error fault => simp [located] at replaced
  | ok place =>
      obtain ⟨noNull, locate⟩ := (locateFor_eq_ok_iff ..).1 located
      simp only [located] at replaced
      refine ⟨noNull, place, locate, ?_⟩
      cases entry : before.entryAt? place with
      | none =>
          simp only [entry, Except.ok.injEq] at replaced
          exact ⟨by simp, replaced.symm⟩
      | some own =>
          cases own with
          | directory => simp [entry] at replaced
          | file content =>
              simp only [entry, Except.ok.injEq] at replaced
              exact ⟨by simp, replaced.symm⟩

/-! ## Failures -/

/-- A path without null characters is at least tried. -/
theorem isSystem_of_locateFor
    {workspace : Workspace}
    {path : Path}
    {mentioned : List String}
    {fault : AccessFault}
    (noNull : holdsNull path.text = false)
    (failed : workspace.locateFor path mentioned = .error fault) :
    ∃ cause, fault = .system cause := by
  simp only [locateFor, noNull, Bool.false_eq_true, if_false, mapError_eq_error_iff] at failed
  obtain ⟨obstacle, _, rfl⟩ := failed
  exact ⟨_, rfl⟩

theorem isSystem_of_read
    {workspace : Workspace}
    {path : Path}
    {fault : AccessFault}
    (noNull : holdsNull path.text = false)
    (failed : workspace.read path = .error fault) :
    ∃ cause, fault = .system cause := by
  unfold read at failed
  cases located : workspace.locateFor path [path.text] with
  | error own =>
      simp only [located, Except.error.injEq] at failed
      exact failed ▸ isSystem_of_locateFor noNull located
  | ok place =>
      simp only [located] at failed
      split at failed
      · cases failed
      · cases failed
        exact ⟨_, rfl⟩
      · cases failed
        exact ⟨_, rfl⟩

theorem isSystem_of_append
    {workspace : Workspace}
    {path : Path}
    {bytes : ByteArray}
    {fault : AccessFault}
    (noNull : holdsNull path.text = false)
    (failed : workspace.append path bytes = .error fault) :
    ∃ cause, fault = .system cause := by
  unfold append at failed
  cases located : workspace.locateFor path [path.text] with
  | error own =>
      simp only [located, Except.error.injEq] at failed
      exact failed ▸ isSystem_of_locateFor noNull located
  | ok place =>
      simp only [located] at failed
      split at failed
      · cases failed
      · cases failed
        exact ⟨_, rfl⟩
      · cases failed

theorem isSystem_of_replace
    {workspace : Workspace}
    {path : Path}
    {bytes : ByteArray}
    {fault : AccessFault}
    (noNull : holdsNull path.text = false)
    (failed : workspace.replace path bytes = .error fault) :
    ∃ cause, fault = .system cause := by
  unfold replace at failed
  cases located : workspace.locateFor path [temporaryName, path.text] with
  | error own =>
      simp only [located, Except.error.injEq] at failed
      exact failed ▸ isSystem_of_locateFor noNull located
  | ok place =>
      simp only [located] at failed
      split at failed
      · cases failed
        exact ⟨_, rfl⟩
      · cases failed

/-- Only a null character keeps a replacement from being tried. -/
theorem null_of_replace
    {workspace : Workspace}
    {path : Path}
    {bytes : ByteArray}
    (untried : workspace.replace path bytes = .error .nullCharacter) :
    holdsNull path.text = true := by
  refine Bool.of_not_eq_false fun noNull => ?_
  obtain ⟨cause, impossible⟩ := isSystem_of_replace noNull untried
  cases impossible

theorem isSystem_of_temporaryPlace
    {workspace : Workspace}
    {path : Path}
    {fault : AccessFault}
    (noNull : holdsNull path.text = false)
    (failed : workspace.temporaryPlace path = .error fault) :
    ∃ cause, fault = .system cause := by
  obtain ⟨parentNoNull, nameNoNull⟩ := holdsNull_parts noNull
  unfold temporaryPlace at failed
  simp only [nameNoNull, Bool.false_eq_true, if_false] at failed
  cases located : workspace.locateFor path.parent.settled [temporaryName] with
  | error own =>
      simp only [located, Except.error.injEq] at failed
      exact failed ▸ isSystem_of_locateFor (holdsNull_settled parentNoNull) located
  | ok place =>
      simp only [located] at failed
      split at failed
      · cases failed
        exact ⟨_, rfl⟩
      · cases failed
        exact ⟨_, rfl⟩
      · split at failed
        · cases failed
          exact ⟨_, rfl⟩
        · cases failed

end Workspace
end Storage
end FlatTables
