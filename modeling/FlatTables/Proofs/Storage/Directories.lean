import FlatTables.Proofs.Storage.Workspace

/-!
# Directories on the way

Where a path leads into a directory, all components before are directories too, so the path leads
there as well if its double dots are resolved by its text alone. Leaving components out never makes
a path longer.
-/

namespace FlatTables
namespace Storage

namespace Workspace

/-- The place and all places above it are directories. -/
def Grounded (workspace : Workspace) (place : List String) : Prop :=
  ∀ above, above <+: place → workspace.entryAt? above = some .directory

theorem grounded_nil (workspace : Workspace) : workspace.Grounded [] := by
  intro above isPrefixOf
  rw [List.prefix_nil.1 isPrefixOf]
  rfl

theorem Grounded.dropLast
    {workspace : Workspace}
    {place : List String}
    (grounded : workspace.Grounded place) :
    workspace.Grounded place.dropLast :=
  fun above isAbove => grounded above (isAbove.trans place.dropLast_prefix)

theorem Grounded.concat
    {workspace : Workspace}
    {place : List String}
    (grounded : workspace.Grounded place)
    {name : String}
    (isDirectory : workspace.entryAt? (place ++ [name]) = some .directory) :
    workspace.Grounded (place ++ [name]) := by
  intro above isAbove
  rcases List.prefix_concat_iff.1 isAbove with rfl | higher
  · exact isDirectory
  · exact grounded above higher

/-- Where a component can be followed after others, these lead to a directory. -/
theorem exists_directory_of_follow
    {workspace : Workspace}
    {start components place : List String}
    (grounded : workspace.Grounded start)
    {name : String}
    (followed : workspace.follow start (components ++ [name]) = .ok place) :
    ∃ above, workspace.follow start components = .ok above ∧
      workspace.entryAt? above = some .directory := by
  fun_induction follow workspace start components with
  | case1 start => exact ⟨start, rfl, grounded start List.prefix_rfl⟩
  | case2 rest => simp [follow] at followed
  | case3 start rest below inductionHypothesis =>
      rw [List.cons_append, follow, if_neg below] at followed
      exact inductionHypothesis grounded.dropLast followed
  | case4 start own rest notParent long => simp [follow, long] at followed
  | case5 start own notParent short =>
      simp only [List.singleton_append, follow, short, if_false, reduceCtorEq] at followed
      split at followed
      · rename_i isDirectory
        exact ⟨_, rfl, isDirectory⟩
      · cases followed
      · cases followed
  | case6 start own rest notParent short more found inductionHypothesis =>
      simp only [List.cons_append, follow, short, if_false, List.append_eq_nil_iff, more,
        false_and, found] at followed
      exact inductionHypothesis (grounded.concat found) followed
  | case7 start own rest notParent short more content found =>
      simp [follow, short, found] at followed
  | case8 start own rest notParent short more found =>
      simp [follow, short, found] at followed

/-- A component is followed from the directory that others lead to. -/
theorem follow_concat_of_directory
    {workspace : Workspace}
    {start components above : List String}
    (followed : workspace.follow start components = .ok above)
    (isDirectory : workspace.entryAt? above = some .directory)
    {name : String}
    (proper : name ≠ "..") :
    workspace.follow start (components ++ [name]) =
      if maxNameBytes < name.utf8ByteSize then .error .nameTooLong else .ok (above ++ [name]) := by
  fun_induction follow workspace start components with
  | case1 start =>
      cases followed
      simp [follow]
  | case2 rest => cases followed
  | case3 start rest below inductionHypothesis =>
      rw [List.cons_append, follow, if_neg below]
      exact inductionHypothesis followed
  | case4 start own rest notParent long => cases followed
  | case5 start own notParent short =>
      cases followed
      simp [follow, short, isDirectory]
  | case6 start own rest notParent short more found inductionHypothesis =>
      simp only [List.cons_append, follow, short, if_false, List.append_eq_nil_iff, more,
        false_and, found]
      exact inductionHypothesis followed
  | case7 start own rest notParent short more content found => cases followed
  | case8 start own rest notParent short more found => cases followed

/-- Components that do not lead to a directory lead to a place that is named after the last. -/
theorem named_of_follow
    {workspace : Workspace}
    {start components place : List String}
    (grounded : workspace.Grounded start)
    (followed : workspace.follow start components = .ok place)
    (notDirectory : workspace.entryAt? place ≠ some .directory) :
    place.getLast? = components.getLast? := by
  fun_induction follow workspace start components with
  | case1 start =>
      cases followed
      exact absurd (grounded place List.prefix_rfl) notDirectory
  | case2 rest => cases followed
  | case3 start rest below inductionHypothesis =>
      have last := inductionHypothesis grounded.dropLast followed
      cases rest with
      | nil =>
          -- Nothing follows the double dots, so the place is the directory they lead to.
          rw [List.getLast?_nil, List.getLast?_eq_none_iff] at last
          exact absurd last (nonempty_of_entryAt? notDirectory)
      | cons name rest => rw [last, List.getLast?_cons_cons]
  | case4 start name rest notParent long => cases followed
  | case5 start name notParent short =>
      cases followed
      simp
  | case6 start name rest notParent short more found inductionHypothesis =>
      rw [inductionHypothesis (grounded.concat found) followed,
        List.getLast?_cons_of_ne_nil more]
  | case7 start name rest notParent short more content found => cases followed
  | case8 start name rest notParent short more found => cases followed

end Workspace

/-! ## Lengths of paths -/

/-- Joined components are not longer if some of them are left out. -/
theorem intercalate_size_le
    {fewer more : List String}
    (sublist : fewer.Sublist more) :
    (String.intercalate "/" fewer).utf8ByteSize ≤ (String.intercalate "/" more).utf8ByteSize := by
  have joined : ∀ (name : String) (rest : List String),
      (String.intercalate "/" (name :: rest)).utf8ByteSize =
        name.utf8ByteSize + if rest = [] then 0
          else 1 + (String.intercalate "/" rest).utf8ByteSize := by
    intro name rest
    by_cases last : rest = []
    · simp [last]
    · rw [String.intercalate_cons_of_ne_nil last, String.utf8ByteSize_append,
        String.utf8ByteSize_append, if_neg last, Nat.add_assoc]
      rfl
  induction sublist with
  | slnil => exact Nat.le_refl _
  | cons name sublist inductionHypothesis =>
      rename_i fewer more
      rw [joined]
      split
      · rename_i empty
        subst empty
        simp [List.sublist_nil.1 sublist]
      · omega
  | cons_cons name sublist inductionHypothesis =>
      rename_i fewer more
      rw [joined, joined]
      by_cases empty : more = []
      · subst empty
        simp [List.sublist_nil.1 sublist]
      · rw [if_neg empty]
        split <;> omega

private theorem text_size (path : Path) :
    path.text.utf8ByteSize =
      max 1 (path.root.utf8ByteSize + (String.intercalate "/" path.components).utf8ByteSize) := by
  rw [← String.utf8ByteSize_append, Path.text]
  by_cases empty : path.root ++ String.intercalate "/" path.components = ""
  · simp [empty]
    decide
  · rw [if_neg empty]
    have positive := mt String.utf8ByteSize_eq_zero_iff.1 empty
    omega

/-- A path is not longer than one with the same root and more components. -/
private theorem text_size_le
    {root : String}
    {fewer more : List String}
    (sublist : fewer.Sublist more) :
    (Path.text ⟨root, fewer⟩).utf8ByteSize ≤ (Path.text ⟨root, more⟩).utf8ByteSize := by
  have shorter := intercalate_size_le sublist
  rw [text_size, text_size]
  exact sup_le_sup_left (Nat.add_le_add_left shorter _) 1

/-- The path without its last component is not longer. -/
theorem Path.parent_size_le (path : Path) :
    path.parent.text.utf8ByteSize ≤ path.text.utf8ByteSize :=
  text_size_le path.components.dropLast_sublist

/-- A path is not longer with its double dots settled. -/
theorem Path.settled_size_le (path : Path) :
    path.settled.text.utf8ByteSize ≤ path.text.utf8ByteSize :=
  text_size_le (Workspace.settle_sublist [] path.components)

namespace Workspace

theorem locate_eq_ok_iff
    (workspace : Workspace)
    (path : Path)
    (place : List String) :
    workspace.locate path = .ok place ↔
      path.text.utf8ByteSize ≤ maxPathBytes ∧ path.root = "" ∧
        workspace.follow [] path.components = .ok place := by
  unfold locate
  by_cases long : maxPathBytes < path.text.utf8ByteSize
  · simp [long]
  · by_cases relative : path.root = ""
    · simp [long, relative, not_lt.1 long]
    · simp [long, relative]

/-! ## Settled paths -/

/-- Components that can be followed lead where they lead with their double dots settled. On the way
there, no component was a double dot or too long, and what lies above is a directory. -/
theorem settle_of_follow
    {workspace : Workspace}
    {start components place : List String}
    (grounded : workspace.Grounded start)
    (proper : ∀ name ∈ start, name ≠ ".." ∧ name.utf8ByteSize ≤ maxNameBytes)
    (followed : workspace.follow start components = .ok place) :
    Path.settle start components = place ∧
      (∀ name ∈ place, name ≠ ".." ∧ name.utf8ByteSize ≤ maxNameBytes) ∧
      workspace.Grounded place.dropLast := by
  fun_induction follow workspace start components with
  | case1 start =>
      cases followed
      exact ⟨rfl, proper, grounded.dropLast⟩
  | case2 rest => cases followed
  | case3 start rest below inductionHypothesis =>
      have notDots : start.getLast? ≠ some ".." :=
        fun last => (proper ".." (List.mem_of_getLast? last)).1 rfl
      rw [Path.settle, if_pos ⟨rfl, below, notDots⟩]
      exact inductionHypothesis grounded.dropLast
        (fun name member => proper name (start.dropLast_subset member)) followed
  | case4 start name rest notParent long => cases followed
  | case5 start name notParent short =>
      cases followed
      have notDots : name ≠ ".." := fun dots => notParent dots
      rw [Path.settle, if_neg (fun dots => notDots dots.1), Path.settle, List.dropLast_concat]
      refine ⟨rfl, ?_, grounded⟩
      intro own member
      rcases List.mem_append.1 member with before | isName
      · exact proper own before
      · exact List.mem_singleton.1 isName ▸ ⟨notDots, not_lt.1 short⟩
  | case6 start name rest notParent short more found inductionHypothesis =>
      have notDots : name ≠ ".." := fun dots => notParent dots
      rw [Path.settle, if_neg (fun dots => notDots dots.1)]
      refine inductionHypothesis (grounded.concat found) ?_ followed
      intro own member
      rcases List.mem_append.1 member with before | isName
      · exact proper own before
      · exact List.mem_singleton.1 isName ▸ ⟨notDots, not_lt.1 short⟩
  | case7 start name rest notParent short more content found => cases followed
  | case8 start name rest notParent short more found => cases followed

/-- A directory is followed to component by component. -/
theorem follow_of_grounded
    {workspace : Workspace}
    (start : List String)
    {components : List String}
    (proper : ∀ name ∈ components, name ≠ ".." ∧ name.utf8ByteSize ≤ maxNameBytes)
    (grounded : workspace.Grounded (start ++ components)) :
    workspace.follow start components = .ok (start ++ components) := by
  induction components generalizing start with
  | nil => simp [follow]
  | cons name rest inductionHypothesis =>
      obtain ⟨notDots, short⟩ := proper name List.mem_cons_self
      have whole : start ++ name :: rest = start ++ [name] ++ rest := by simp
      by_cases last : rest = []
      · subst last
        simp [follow, not_lt.2 short]
      · have isDirectory : workspace.entryAt? (start ++ [name]) = some .directory :=
          grounded _ (whole ▸ List.prefix_append _ _)
        have others := inductionHypothesis (start ++ [name])
          (fun own member => proper own (List.mem_cons_of_mem name member)) (whole ▸ grounded)
        rw [follow, if_neg (not_lt.2 short), if_neg last, isDirectory, whole]
        · exact others
        · exact notDots

/-- A path into a directory leads there with its double dots settled too. -/
theorem locate_settled
    {workspace : Workspace}
    {path : Path}
    {place : List String}
    (located : workspace.locate path = .ok place)
    (isDirectory : workspace.entryAt? place = some .directory) :
    workspace.locate path.settled = .ok place := by
  obtain ⟨short, relative, followed⟩ := (locate_eq_ok_iff ..).1 located
  obtain ⟨settled, proper, above⟩ := settle_of_follow (grounded_nil workspace)
    (fun _ none => absurd none List.not_mem_nil) followed
  have grounded : workspace.Grounded place := by
    rcases List.eq_nil_or_concat place with rfl | ⟨front, last, rfl⟩
    · exact grounded_nil workspace
    · rw [List.concat_eq_append] at isDirectory above ⊢
      rw [List.dropLast_concat] at above
      exact above.concat isDirectory
  refine (locate_eq_ok_iff ..).2 ⟨path.settled_size_le.trans short, relative, ?_⟩
  rw [Path.settled, settled]
  exact follow_of_grounded [] proper grounded

end Workspace
end Storage
end FlatTables
