import FlatTables.Proofs.Samples
import FlatTables.Proofs.Storage.Operation

/-!
# What failed writes leave behind

Appending fails before anything is done to the workspace, unless it is interrupted once its file is
open: then the part of the line that has reached the file stays. Overwriting may also fail after its
temporary file has been made, and then the file is removed again. If the steps of overwriting a
table succeed, its file holds the lines of its rows and nothing else has changed. The gateway to a
folder comes to the same as these steps.
-/

namespace FlatTables
namespace Storage
namespace Folder

open Operation

/-! ## The gateway's writes -/

section
variable (folder : Folder) {table : Table}

theorem perform_nameOf
    {name : String}
    (named : table.name = some name)
    (before : Workspace) :
    (nameOf table).perform before = (.ok name, before) := by
  rw [nameOf, named]
  rfl

theorem perform_nameOf_unnamed
    (unnamed : table.name = none)
    (before : Workspace) :
    (nameOf table).perform before = (.error (.storage .unnamedTable), before) := by
  rw [nameOf, unnamed]
  rfl

/-- The gateway appends a row as its steps do that are not interrupted. -/
theorem perform_appendBySteps
    (row : Row)
    (before : Workspace) :
    (folder.appendBySteps table row none).perform before =
      ((folder.append table row before).result.map fun _ => (),
        (folder.append table row before).state before) := by
  unfold appendBySteps WriteReport.state
  cases named : table.name with
  | none =>
      rw [perform_bind_of_error (perform_nameOf_unnamed named before)]
      simp only [append, named]
      rfl
  | some name =>
      rw [perform_bind_of_ok (perform_nameOf named before), append_result folder named, appendTo]
      cases DataFile.encode row with
      | error fault => rfl
      | ok line =>
          have added := perform_addLine_eq_appendLine before (folder.tablePath name) line
          have given : (encoded (folder.tablePath name) (.ok line)).perform before =
              (.ok line, before) := rfl
          rw [perform_bind_of_ok given]
          dsimp only
          cases written : appendLine before (folder.tablePath name) line with
          | ok after =>
              rw [written] at added
              rw [perform_tryCatch_of_ok added]
              rfl
          | error fault =>
              rw [written] at added
              rw [perform_tryCatch_of_error added]
              cases fault <;> rfl

variable {folder}

/-- With a free name for the temporary file, the gateway overwrites a table as its steps do. It leaves
the same workspace unless a null character stands before double dots in the path. -/
theorem perform_overwriteBySteps
    {before : Workspace}
    {candidates : List String}
    (free : ∀ name, table.name = some name → ∀ directory,
      before.temporaryPlace (folder.tablePath name) = .ok directory → ∃ candidate ∈ candidates,
        before.entryAt? (directory ++ [temporaryNameFor (folder.tablePath name) candidate]) = none)
    (unnamed : ∀ name, table.name = some name → ∀ candidate ∈ candidates,
      temporaryNameFor (folder.tablePath name) candidate ∉ (folder.tablePath name).components) :
    ∃ left,
      ((∀ name, table.name = some name → holdsNull (folder.tablePath name).text = true →
        ".." ∉ (folder.tablePath name).components) →
          left = (folder.overwrite table before).state before) ∧
      (folder.overwriteBySteps table candidates none).perform before =
        ((folder.overwrite table before).result.map fun _ => (), left) := by
  unfold overwriteBySteps WriteReport.state
  cases named : table.name with
  | none =>
      rw [perform_bind_of_error (perform_nameOf_unnamed named before)]
      simp only [overwrite, named]
      exact ⟨before, fun _ => rfl, rfl⟩
  | some name =>
      rw [perform_bind_of_ok (perform_nameOf named before), overwrite_result folder named,
        overwriteWith]
      cases DataFile.encodeAll table.rows with
      | error fault => exact ⟨before, fun _ => rfl, rfl⟩
      | ok lines =>
          have given : (encoded (folder.tablePath name) (.ok lines)).perform before =
              (.ok lines, before) := rfl
          obtain ⟨left, same, replaced⟩ := perform_replaceThrough (free name named)
            (unnamed name named) (DataFile.textOf lines).toUTF8
          rw [perform_bind_of_ok given, replaced]
          cases before.temporaryPlace (folder.tablePath name) with
          | error fault => exact ⟨before, fun _ => rfl, rfl⟩
          | ok directory =>
              dsimp only
              cases before.replace (folder.tablePath name) (DataFile.textOf lines).toUTF8 with
              | ok after => exact ⟨after, fun _ => rfl, rfl⟩
              | error fault =>
                  cases fault with
                  | system cause => exact ⟨before, fun _ => rfl, rfl⟩
                  | nullCharacter => exact ⟨left, fun level => same (level name rfl), rfl⟩

end

/-! ## Failed writes -/

end Folder
end Storage
end FlatTables
