import FlatTables.Proofs.Storage.Folder

/-!
# Names of files

If neither the suffix nor the name of the schema file holds a separator, every file stands directly
in the folder, and its place ends with its name. Files with different names then stand at different
places. With the default names this is so for every directory.
-/

namespace FlatTables
namespace Storage

/-! ## Places and names -/

/-- The text names something in a directory: it holds no separator and does not stand for a
directory itself. -/
structure Path.IsFileName (name : String) : Prop where
  unbroken : '/' ∉ name.toList
  proper : name ∉ ["", ".", ".."]

/-- The name of a file is added to a path as its last component. -/
theorem Path.IsFileName.join_eq
    {name : String}
    (isFileName : IsFileName name)
    (path : Path) :
    path.join name = ⟨path.root, path.components ++ [name]⟩ := by
  obtain ⟨unbroken, proper⟩ := isFileName
  have root : rootOf name.toList = "" := by
    cases chars : name.toList with
    | nil => rfl
    | cons c rest =>
        have noSlash : c ≠ '/' := by
          rintro rfl
          exact unbroken (by simp [chars])
        unfold rootOf
        split <;> simp_all
  have notEmpty : name ≠ "" := by
    rintro rfl
    simp at proper
  have notDot : name ≠ "." := by
    rintro rfl
    simp at proper
  have further : ofString name = ⟨"", [name]⟩ := by
    simp [ofString, root, Text.splitFields_of_not_mem unbroken, notEmpty, notDot]
  simp [join, further]

/-- Components lead to a place that ends with the last of them, unless that goes up. -/
theorem Workspace.getLast?_of_follow
    {workspace : Workspace}
    {start components place : List String}
    (followed : workspace.follow start components = .ok place)
    {last : String}
    (ends : components.getLast? = some last)
    (notParent : last ≠ "..") :
    place.getLast? = some last := by
  fun_induction follow workspace start components with
  | case1 start => cases ends
  | case2 rest => cases followed
  | case3 start rest below inductionHypothesis =>
      apply inductionHypothesis followed
      cases rest with
      | nil => exact absurd (Option.some.inj ends) (Ne.symm notParent)
      | cons next others => simpa using ends
  | case4 start name rest notUp long => cases followed
  | case5 start name notUp short =>
      cases followed
      simpa using ends
  | case6 start name rest notUp short more found inductionHypothesis =>
      apply inductionHypothesis followed
      rwa [← List.getLast?_cons_of_ne_nil more]
  | case7 start name rest notUp short more content found => cases followed
  | case8 start name rest notUp short more found => cases followed

/-- A file named in a directory stands at a place that ends with its name. -/
theorem Path.IsFileName.getLast?_eq
    {name : String}
    (isFileName : IsFileName name)
    {workspace : Workspace}
    {path : Path}
    {place : List String}
    (located : workspace.locate (path.join name) = .ok place) :
    place.getLast? = some name := by
  rw [isFileName.join_eq, Workspace.locate] at located
  split at located
  · cases located
  · split at located
    · cases located
    · apply Workspace.getLast?_of_follow located
      · simp
      · rintro rfl
        exact isFileName.proper (by simp)

/-! ## Plain names -/

namespace Folder

/-- The files of the folder are named in its directory. -/
structure Plain (folder : Folder) : Prop where
  schemaFile : Path.IsFileName folder.schemaFile
  suffix_unbroken : '/' ∉ folder.suffix.toList
  suffix_noNull : '\x00' ∉ folder.suffix.toList

/-- The folder at a directory, with the default names of its files. -/
def usual (directory : Path) : Folder :=
  ⟨directory, "schema.txt", ".csv"⟩

/-- The default names are plain. -/
theorem plain_usual (directory : Path) : (usual directory).Plain where
  schemaFile := ⟨by simp [usual], by simp [usual]⟩
  suffix_unbroken := by simp [usual]
  suffix_noNull := by simp [usual]

/-- The default name of the schema file is not one of a data file. -/
theorem usual_apart
    (directory : Path)
    (name : String) :
    name ++ (usual directory).suffix ≠ (usual directory).schemaFile := by
  intro same
  have suffix : ".csv".toList <:+ "schema.txt".toList :=
    ⟨name.toList, (String.toList_append).symm.trans (congrArg String.toList same)⟩
  exact absurd suffix (by decide)

section
variable
  {folder : Folder}
  (unbroken : '/' ∉ folder.suffix.toList)
include unbroken

/-- With a suffix that holds no separator, every table has the name of a file. -/
theorem isFileName_of_unbroken
    {name : String}
    (isName : SchemaFile.IsName name) :
    Path.IsFileName (name ++ folder.suffix) where
  unbroken := by simp [isName.slash_not_mem, unbroken]
  proper := isName.append_not_mem folder.suffix

/-- With a suffix that holds no separator, the files of different tables stand at different
places. -/
theorem apart_of_unbroken
    (workspace : Workspace)
    {name other : String}
    (isName : SchemaFile.IsName name)
    (otherIsName : SchemaFile.IsName other)
    (differ : name ≠ other) :
    workspace.Apart (folder.tablePath name) (folder.tablePath other) := by
  intro place located otherLocated
  have ends := (isFileName_of_unbroken unbroken isName).getLast?_eq located
  have otherEnds := (isFileName_of_unbroken unbroken otherIsName).getLast?_eq otherLocated
  have same : name ++ folder.suffix = other ++ folder.suffix :=
    Option.some.inj (ends.symm.trans otherEnds)
  exact differ ((String.append_left_inj _).1 same)

end

section
variable
  {folder : Folder}
  (plain : folder.Plain)
include plain

/-- Every table has the name of a file. -/
theorem Plain.isFileName
    {name : String}
    (isName : SchemaFile.IsName name) :
    Path.IsFileName (name ++ folder.suffix) :=
  isFileName_of_unbroken plain.suffix_unbroken isName

/-- With plain names, no two files stand at one place unless a data file is called like the schema
file. -/
theorem Plain.separate
    (workspace : Workspace)
    {names : List String}
    (areNames : ∀ name ∈ names, SchemaFile.IsName name)
    (apart : ∀ name ∈ names, name ++ folder.suffix ≠ folder.schemaFile) :
    folder.Separate workspace names := by
  refine ⟨?_, ?_⟩
  · intro name member place located schemaLocated
    apply apart name member
    have ends := (plain.isFileName (areNames name member)).getLast?_eq located
    exact Option.some.inj (ends.symm.trans (plain.schemaFile.getLast?_eq schemaLocated))
  · intro name member other otherMember differ
    exact apart_of_unbroken plain.suffix_unbroken workspace (areNames name member)
      (areNames other otherMember) differ

/-- No path of a table holds a null character if the schema file could be read. -/
theorem Plain.holdsNull_tablePath
    {workspace : Workspace}
    {schemas : List NamedSchema}
    (read : folder.readSchemas workspace = .ok schemas)
    {name : String}
    (isName : SchemaFile.IsName name) :
    holdsNull (folder.tablePath name).text = false := by
  obtain ⟨text, hasContent, _⟩ := (readSchemas_eq_ok_iff ..).1 read
  obtain ⟨_, noNull, _⟩ := (Workspace.read_eq_ok_iff ..).1 hasContent
  rw [← Bool.not_eq_true, Workspace.holdsNull_text_iff, schemaPath,
    plain.schemaFile.join_eq] at noNull
  rw [← Bool.not_eq_true, Workspace.holdsNull_text_iff, tablePath,
    (plain.isFileName isName).join_eq]
  rintro (inRoot | ⟨component, member, inComponent⟩)
  · exact noNull (.inl inRoot)
  · rcases List.mem_append.1 member with above | own
    · exact noNull (.inr ⟨component, List.mem_append_left _ above, inComponent⟩)
    · rw [List.mem_singleton.1 own, String.toList_append] at inComponent
      rcases List.mem_append.1 inComponent with inName | inSuffix
      · exact isName.null_not_mem inName
      · exact plain.suffix_noNull inSuffix

end

end Folder
end Storage
end FlatTables
