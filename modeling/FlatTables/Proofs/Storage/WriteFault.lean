import FlatTables.Proofs.Storage.Folder

/-!
# Why writes fail

A row is not appended, or a table not overwritten, either because a row cannot be encoded or for a
reason that lies in the workspace. The messages of the two kinds of failure begin differently, so
the kind of a failure can be told from its message alone.
-/

namespace FlatTables
namespace Storage

open DataFile (Encodable)

namespace Folder

theorem appendTo_eq_error
    {folder : Folder}
    {name : String}
    {row : Row}
    {before : Workspace}
    {fault : WriteFault}
    (failed : folder.appendTo name row before = .error fault) :
    (∃ own, DataFile.encode row = .error own ∧
        fault = encodingFailure (folder.tablePath name) own) ∨
      fault = .nullCharacter ∨
      ∃ cause, fault = .storage (.appendFailed name cause (folder.tablePath name)) := by
  unfold appendTo at failed
  cases encoded : DataFile.encode row with
  | error own =>
      simp only [encoded, Except.error.injEq] at failed
      exact .inl ⟨own, rfl, failed.symm⟩
  | ok line =>
      simp only [encoded] at failed
      split at failed
      · cases failed
      · cases failed
        exact .inr (.inl rfl)
      · rename_i cause _
        cases failed
        exact .inr (.inr ⟨cause, rfl⟩)

/-- A temporary file is refused for an obstacle that was met with its name. -/
theorem temporaryPlace_eq_error
    {workspace : Workspace}
    {path : Path}
    {fault : AccessFault}
    (failed : workspace.temporaryPlace path = .error fault) :
    fault = .nullCharacter ∨
      ∃ obstacle : Obstacle, fault = .system (obstacle.fault [Workspace.temporaryName]) := by
  unfold Workspace.temporaryPlace at failed
  split at failed
  · cases failed
    exact .inl rfl
  · cases located : workspace.locateFor path.parent.settled [Workspace.temporaryName] with
    | error own =>
        simp only [located, Except.error.injEq] at failed
        subst failed
        unfold Workspace.locateFor at located
        split at located
        · cases located
          exact .inl rfl
        · obtain ⟨obstacle, _, rfl⟩ := mapError_eq_error_iff.1 located
          exact .inr ⟨obstacle, rfl⟩
    | ok place =>
        simp only [located] at failed
        split at failed
        · cases failed
          exact .inr ⟨_, rfl⟩
        · cases failed
          exact .inr ⟨_, rfl⟩
        · split at failed
          · cases failed
            exact .inr ⟨_, rfl⟩
          · cases failed

theorem overwriteWith_eq_error
    {folder : Folder}
    {name : String}
    {rows : List Row}
    {before : Workspace}
    {fault : WriteFault}
    (failed : folder.overwriteWith name rows before = .error fault) :
    (∃ own, DataFile.encodeAll rows = .error own ∧
        fault = encodingFailure (folder.tablePath name) own) ∨
      fault = .nullCharacter ∨
      (∃ obstacle : Obstacle, fault = .system (obstacle.fault [Workspace.temporaryName])) ∨
      ∃ cause, fault = .storage (.overwriteFailed cause (folder.tablePath name)) := by
  unfold overwriteWith at failed
  cases encoded : DataFile.encodeAll rows with
  | error own =>
      simp only [encoded, Except.error.injEq] at failed
      exact .inl ⟨own, rfl, failed.symm⟩
  | ok lines =>
      simp only [encoded] at failed
      cases temporary : before.temporaryPlace (folder.tablePath name) with
      | error own =>
          simp only [temporary, Except.error.injEq] at failed
          subst failed
          rcases temporaryPlace_eq_error temporary with rfl | ⟨obstacle, rfl⟩
          · exact .inr (.inl rfl)
          · exact .inr (.inr (.inl ⟨obstacle, rfl⟩))
      | ok place =>
          simp only [temporary] at failed
          split at failed
          · cases failed
          · cases failed
            exact .inr (.inl rfl)
          · rename_i cause _
            cases failed
            exact .inr (.inr (.inr ⟨cause, rfl⟩))

end Folder

/-! ## Kinds of failures -/

/-- The failure lies in the workspace: the path cannot be tried, or an operation is refused. -/
inductive WriteFault.OfWorkspace : WriteFault → Prop
  | nullCharacter : OfWorkspace .nullCharacter
  | refused (obstacle : Obstacle) (paths : List String) :
      OfWorkspace (.system (obstacle.fault paths))
  | appendFailed (table : String) (cause : SystemFault) (path : Path) :
      OfWorkspace (.storage (.appendFailed table cause path))
  | overwriteFailed (cause : SystemFault) (path : Path) :
      OfWorkspace (.storage (.overwriteFailed cause path))

/-- A row that can be written is refused by the workspace only. -/
theorem Folder.ofWorkspace_of_appendTo
    {folder : Folder}
    {name : String}
    {row : Row}
    {before : Workspace}
    {fault : WriteFault}
    (encodable : Encodable row)
    (failed : folder.appendTo name row before = .error fault) :
    fault.OfWorkspace := by
  obtain ⟨line, encoded⟩ := encodable
  rcases appendTo_eq_error failed with ⟨own, unencoded, _⟩ | rfl | ⟨cause, rfl⟩
  · rw [encoded] at unencoded
    cases unencoded
  · exact .nullCharacter
  · exact .appendFailed ..

/-- Rows that can be written are refused by the workspace only. -/
theorem Folder.ofWorkspace_of_overwriteWith
    {folder : Folder}
    {name : String}
    {rows : List Row}
    {before : Workspace}
    {fault : WriteFault}
    (encodable : ∀ row ∈ rows, Encodable row)
    (failed : folder.overwriteWith name rows before = .error fault) :
    fault.OfWorkspace := by
  obtain ⟨lines, encoded⟩ := DataFile.encodeAll_of_encodable encodable
  rcases overwriteWith_eq_error failed with
    ⟨own, unencoded, _⟩ | rfl | ⟨obstacle, rfl⟩ | ⟨cause, rfl⟩
  · rw [encoded] at unencoded
    cases unencoded
  · exact .nullCharacter
  · exact .refused ..
  · exact .overwriteFailed ..

namespace WriteFault.OfWorkspace

variable {fault : WriteFault} (ofWorkspace : fault.OfWorkspace)
include ofWorkspace

/-- A failure that lies in the workspace is not that of a row that cannot be encoded. -/
theorem ne_encodingFailure
    (path : Path)
    (own : DataFile.EncodingFault) :
    fault ≠ Folder.encodingFailure path own := by
  cases ofWorkspace <;> cases own <;> simp [Folder.encodingFailure]

omit ofWorkspace in
private theorem head?_append
    {first : String}
    {c : Char}
    (starts : first.toList.head? = some c)
    (rest : String) :
    (first ++ rest).toList.head? = some c := by
  rw [String.toList_append, List.head?_append, starts, Option.some_or]

omit ofWorkspace in
/-- A message begins as the cause it shows. -/
private theorem head?_message
    {fault : StorageFault}
    {c : Char}
    (starts : fault.cause.toList.head? = some c) :
    fault.message.toList.head? = some c := by
  unfold StorageFault.message
  split
  · rw [String.append_assoc, String.append_assoc]
    exact head?_append starts _
  · exact starts

/-- The message of a failure in the workspace begins with a bracket or with the operation. -/
theorem head?_reported?
    {message : String}
    (reported : fault.reported? = some message) :
    message.toList.head? = some '[' ∨ message.toList.head? = some 'C' := by
  cases ofWorkspace with
  | nullCharacter => cases reported
  | refused obstacle paths =>
      obtain rfl := Option.some.inj reported
      refine .inl ?_
      cases obstacle <;> cases paths <;>
        simp only [Obstacle.fault, SystemFault.message, String.append_assoc] <;>
        exact head?_append rfl _
  | appendFailed table cause path =>
      obtain rfl := Option.some.inj reported
      refine .inr (head?_message ?_)
      change ("Cannot append to table " ++ Text.quoted table ++ ": " ++ cause.message).toList.head?
        = some 'C'
      simp only [String.append_assoc]
      exact head?_append rfl _
  | overwriteFailed cause path =>
      obtain rfl := Option.some.inj reported
      exact .inr (head?_message (head?_append rfl _))

omit ofWorkspace in
/-- The message of a row that cannot be encoded begins with the value or with an article. -/
theorem head?_encodingFailure
    {path : Path}
    {own : DataFile.EncodingFault}
    {message : String}
    (reported : (Folder.encodingFailure path own).reported? = some message) :
    message.toList.head? = some 'V' ∨ message.toList.head? = some 'A' := by
  cases own with
  | oversizedInteger => cases reported
  | needsEscape field =>
      obtain rfl := Option.some.inj reported
      refine .inl (head?_message ?_)
      change ("Value " ++ Text.quoted field ++ " cannot be stored without escaping").toList.head?
        = some 'V'
      simp only [String.append_assoc]
      exact head?_append rfl _
  | blank =>
      obtain rfl := Option.some.inj reported
      refine .inr (head?_message ?_)
      change "A blank row cannot be stored".toList.head? = some 'A'
      decide

/-- A failure in the workspace is never reported as that of a row that cannot be encoded. -/
theorem reported?_ne_encodingFailure
    {message : String}
    (reported : fault.reported? = some message)
    (path : Path)
    (own : DataFile.EncodingFault) :
    (Folder.encodingFailure path own).reported? ≠ some message := by
  intro same
  rcases ofWorkspace.head?_reported? reported with bracket | operation <;>
    rcases head?_encodingFailure same with value | article <;>
    simp_all

end WriteFault.OfWorkspace

end Storage
end FlatTables
