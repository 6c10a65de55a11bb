import FlatTables.Proofs.Storage.TemporaryFile

/-!
# What steps come to

Steps in order stop at the first that fails, and a handler goes on from the workspace that is left
then. Replacing a file through a temporary one either gives it its new content or leaves the
workspace as it was, wherever it stops; with a free name for the temporary file it comes to what
replacing the file at once does, and likewise for appending.
-/

namespace FlatTables
namespace Storage
namespace Operation

/-! ## Steps in order -/

section
variable {α β : Type} (before : Workspace)

@[simp]
theorem perform_pure (result : α) :
    (pure result : Operation α).perform before = (.ok result, before) :=
  rfl

@[simp]
theorem perform_throw (fault : WriteFault) :
    (throw fault : Operation α).perform before = (.error fault, before) :=
  rfl

@[simp]
theorem perform_ask (question : Workspace → Except AccessFault α) :
    (ask question).perform before = ((question before).mapError .ofAccess, before) :=
  rfl

@[simp]
theorem perform_attempt (change : Workspace → Except AccessFault Workspace) :
    (attempt change).perform before =
      match change before with
      | .ok after => (.ok (), after)
      | .error fault => (.error (.ofAccess fault), before) :=
  rfl

@[simp]
theorem perform_put
    (place : List String)
    (bytes : ByteArray) :
    (put place bytes).perform before = (.ok (), before.insert place (.file bytes)) :=
  rfl

/-- An interruption is a failure of the system. -/
theorem perform_breakOff (interruption : Option Interruption) :
    (breakOff interruption).perform before =
      (interruption.elim (.ok ()) fun own => .error (.system own.cause), before) := by
  cases interruption <;> rfl

variable {before}
variable {middle : Workspace}

theorem perform_bind_of_ok
    {first : Operation α}
    {result : α}
    (done : first.perform before = (.ok result, middle))
    (next : α → Operation β) :
    (first >>= next).perform before = (next result).perform middle := by
  unfold perform at done ⊢
  rw [ExceptT.run_bind, StateT.run_bind, done]
  rfl

theorem perform_bind_of_error
    {first : Operation α}
    {fault : WriteFault}
    (failed : first.perform before = (.error fault, middle))
    (next : α → Operation β) :
    (first >>= next).perform before = (.error fault, middle) := by
  unfold perform at failed ⊢
  rw [ExceptT.run_bind, StateT.run_bind, failed]
  rfl

theorem perform_tryCatch_of_ok
    {steps : Operation α}
    {result : α}
    (done : steps.perform before = (.ok result, middle))
    (handler : WriteFault → Operation α) :
    (tryCatch steps handler).perform before = (.ok result, middle) := by
  unfold perform at done ⊢
  rw [ExceptT.run_tryCatch, StateT.run_bind, done]
  rfl

theorem perform_tryCatch_of_error
    {steps : Operation α}
    {fault : WriteFault}
    (failed : steps.perform before = (.error fault, middle))
    (handler : WriteFault → Operation α) :
    (tryCatch steps handler).perform before = (handler fault).perform middle := by
  unfold perform at failed ⊢
  rw [ExceptT.run_tryCatch, StateT.run_bind, failed]
  rfl

end

/-- An empty file is made at the first free name; if there is none, nothing is made. -/
theorem perform_makeFirst
    (before : Workspace)
    (directory names : List String) :
    (∃ name ∈ names, before.entryAt? (directory ++ [name]) = none ∧
        (makeFirst directory names).perform before =
          (.ok (directory ++ [name]), before.insert (directory ++ [name]) (.file .empty))) ∨
      (∀ name ∈ names, before.entryAt? (directory ++ [name]) ≠ none) ∧
        (makeFirst directory names).perform before =
          (.error (.system noTemporaryName), before) := by
  induction names with
  | nil => exact .inr ⟨by simp, rfl⟩
  | cons name rest inductionHypothesis =>
      unfold makeFirst
      have asked : (ask fun workspace => .ok
          (workspace.entryAt? (directory ++ [name])).isSome).perform before =
            (.ok (before.entryAt? (directory ++ [name])).isSome, before) := rfl
      rw [perform_bind_of_ok asked]
      cases entry : before.entryAt? (directory ++ [name]) with
      | none => exact .inl ⟨name, List.mem_cons_self, entry, rfl⟩
      | some own =>
          rcases inductionHypothesis with ⟨other, member, free, made⟩ | ⟨taken, failed⟩
          · exact .inl ⟨other, List.mem_cons_of_mem name member, free, made⟩
          · refine .inr ⟨List.forall_mem_cons.2 ⟨by simp [entry], taken⟩, failed⟩

/-- How making a temporary file can end: there is an empty file at a place that was free, or nothing
has been made. -/
inductive TemporaryMade (before : Workspace) (path : Path) (candidates : List String) :
    Except WriteFault (List String) × Workspace → Prop
  | made {directory : List String} {candidate : String}
      (located : before.temporaryPlace path = .ok directory)
      (member : candidate ∈ candidates)
      (free : before.entryAt? (directory ++ [temporaryNameFor path candidate]) = none) :
      TemporaryMade before path candidates
        (.ok (directory ++ [temporaryNameFor path candidate]),
          before.insert (directory ++ [temporaryNameFor path candidate]) (.file .empty))
  | taken {directory : List String}
      (located : before.temporaryPlace path = .ok directory)
      (taken : ∀ candidate ∈ candidates,
        before.entryAt? (directory ++ [temporaryNameFor path candidate]) ≠ none) :
      TemporaryMade before path candidates (.error (.system noTemporaryName), before)
  | refused {fault : AccessFault}
      (refused : before.temporaryPlace path = .error fault) :
      TemporaryMade before path candidates (.error (.ofAccess fault), before)

theorem temporaryMade
    (before : Workspace)
    (path : Path)
    (candidates : List String) :
    TemporaryMade before path candidates ((makeTemporary path candidates).perform before) := by
  unfold makeTemporary
  cases located : before.temporaryPlace path with
  | error fault =>
      have failed : (ask (·.temporaryPlace path)).perform before =
          (.error (.ofAccess fault), before) := by
        rw [perform_ask, located]
        rfl
      rw [perform_bind_of_error failed]
      exact .refused located
  | ok directory =>
      have asked : (ask (·.temporaryPlace path)).perform before = (.ok directory, before) := by
        rw [perform_ask, located]
        rfl
      rw [perform_bind_of_ok asked]
      rcases perform_makeFirst before directory (candidates.map (temporaryNameFor path)) with
        ⟨name, member, free, performed⟩ | ⟨taken, performed⟩
      · obtain ⟨candidate, isCandidate, rfl⟩ := List.mem_map.1 member
        rw [performed]
        exact .made located isCandidate free
      · rw [performed]
        exact .taken located fun candidate member => taken _ (List.mem_map_of_mem member)

/-! ## Replacing a file -/

section
variable
  {before : Workspace}
  {temporary : List String}
  (nonempty : temporary ≠ [])
  (path : Path)

/-- Once a temporary file has been made, an interruption leaves it with a part of the bytes. -/
theorem perform_fillAndMove_interrupted
    (old bytes : ByteArray)
    (interruption : Interruption) :
    (fillAndMove temporary path bytes (some interruption)).perform
        (before.insert temporary (.file old)) =
      (.error (.system interruption.cause),
        before.insert temporary (.file (bytes.extract 0 interruption.written))) := by
  apply perform_bind_of_error
  rw [fill, perform_bind_of_ok (perform_put ..), perform_breakOff, Workspace.insert_insert]
  rfl

variable (before) in
include nonempty in
/-- Without an interruption the temporary file is filled, and then moved unless that is refused. -/
theorem perform_fillAndMove (old bytes : ByteArray) :
    (fillAndMove temporary path bytes none).perform (before.insert temporary (.file old)) =
      match (before.insert temporary (.file bytes)).replace path bytes with
      | .ok after => (.ok (), after.unlink temporary)
      | .error fault =>
          (.error (.ofAccess fault), before.insert temporary (.file bytes)) := by
  have filled : (fill temporary bytes none).perform (before.insert temporary (.file old)) =
      (.ok (), before.insert temporary (.file bytes)) := by
    rw [fill, perform_bind_of_ok (perform_put ..), perform_breakOff, Workspace.insert_insert]
    rfl
  have entry : (before.insert temporary (.file bytes)).entryAt? temporary = some (.file bytes) := by
    rw [Workspace.entryAt?_insert _ nonempty, if_pos rfl]
  rw [fillAndMove, perform_bind_of_ok filled, perform_attempt, Workspace.moveOver, entry]
  cases moved : (before.insert temporary (.file bytes)).replace path bytes <;>
    simp [moved, Except.map]

/-- Whatever a temporary file holds, cleaning up gives the workspace back. -/
theorem perform_cleanUp
    (free : before.entryAt? temporary = none)
    (content : ByteArray)
    (cause : SystemFault) :
    (cleanUp temporary path cause).perform (before.insert temporary (.file content)) =
      (.error (.storage (.overwriteFailed cause path)), before) := by
  have removed : (attempt fun workspace => .ok (workspace.unlink temporary)).perform
      (before.insert temporary (.file content)) = (.ok (), before) := by
    rw [perform_attempt, Workspace.unlink_insert free]
  rw [cleanUp, perform_bind_of_ok removed, perform_throw]

end

/-- How replacing a file through a temporary one can end: the file has its new content and nothing
else has changed, or nothing has changed at all. Only a null character before double dots is noticed
so late that the temporary file stays, since it is no failure of the system. -/
inductive Replaced (before : Workspace) (path : Path) (bytes : ByteArray) :
    Except WriteFault Unit × Workspace → Prop
  | done {after : Workspace}
      (puts : before.Puts path bytes after) :
      Replaced before path bytes (.ok (), after)
  | undone (fault : WriteFault) :
      Replaced before path bytes (.error fault, before)
  | stranded {directory : List String} {candidate : String}
      (located : before.temporaryPlace path = .ok directory)
      (free : before.entryAt? (directory ++ [temporaryNameFor path candidate]) = none)
      (null : holdsNull path.text = true) :
      Replaced before path bytes
        (.error .nullCharacter,
          before.insert (directory ++ [temporaryNameFor path candidate]) (.file bytes))

/-- Whatever the names of temporary files and wherever filling them is interrupted, replacing a file
ends in one of these ways. -/
theorem replaced
    (before : Workspace)
    (path : Path)
    (bytes : ByteArray)
    (candidates : List String)
    (interruption : Option Interruption) :
    Replaced before path bytes
      ((replaceThrough path bytes candidates interruption).perform before) := by
  unfold replaceThrough
  have made := temporaryMade before path candidates
  generalize result : (makeTemporary path candidates).perform before = pair at made
  cases made with
  | taken located taken =>
      rw [perform_bind_of_error result]
      exact .undone _
  | refused refused =>
      rw [perform_bind_of_error result]
      exact .undone _
  | @made directory candidate located member free =>
      rw [perform_bind_of_ok result]
      cases interruption with
      | some interruption =>
          rw [perform_tryCatch_of_error (perform_fillAndMove_interrupted path _ bytes interruption)]
          dsimp only
          rw [perform_cleanUp path free]
          exact .undone _
      | none =>
          have nonempty : directory ++ [temporaryNameFor path candidate] ≠ [] := by simp
          have moved := perform_fillAndMove before nonempty path .empty bytes
          cases replacement : (before.insert (directory ++ [temporaryNameFor path candidate])
              (.file bytes)).replace path bytes with
          | ok after =>
              simp only [replacement] at moved
              rw [perform_tryCatch_of_ok moved]
              exact .done (Workspace.puts_of_moveOver free replacement)
          | error fault =>
              simp only [replacement] at moved
              rw [perform_tryCatch_of_error moved]
              cases fault with
              | system cause =>
                  simp only [WriteFault.ofAccess]
                  rw [perform_cleanUp path free]
                  exact .undone _
              | nullCharacter =>
                  have null := Workspace.null_of_replace replacement
                  simp only [WriteFault.ofAccess, perform_throw]
                  exact .stranded located free null

/-! ## Steps and single writes -/

/-- Adding a line is refused without any change, or what reaches the file of it is added. -/
theorem perform_addLine
    (before : Workspace)
    (path : Path)
    (line : String)
    (interruption : Option Interruption) :
    (addLine path line interruption).perform before =
      match Folder.takesLine before path with
      | .error fault => (.error (.ofAccess fault), before)
      | .ok atLineStart =>
          match before.append path
              (reaching (DataFile.ownLine atLineStart line).toUTF8 interruption) with
          | .error fault => (.error (.ofAccess fault), before)
          | .ok after => (interruption.elim (.ok ()) fun own => .error (.system own.cause), after) := by
  unfold addLine
  cases taken : Folder.takesLine before path with
  | error fault =>
      apply perform_bind_of_error
      rw [perform_ask, taken]
      rfl
  | ok atLineStart =>
      have asked : (ask fun workspace => Folder.takesLine workspace path).perform before =
          (.ok atLineStart, before) := by
        rw [perform_ask, taken]
        rfl
      rw [perform_bind_of_ok asked]
      cases opened : before.append path .empty with
      | error fault =>
          dsimp only
          rw [Workspace.append_eq_error opened]
          apply perform_bind_of_error
          rw [perform_attempt, opened]
      | ok middle =>
          have opening : (attempt (·.append path .empty)).perform before = (.ok (), middle) := by
            rw [perform_attempt, opened]
          -- opening appends nothing, so what is appended then is all that is appended
          have whole := Workspace.append_append opened
            (reaching (DataFile.ownLine atLineStart line).toUTF8 interruption)
          rw [ByteArray.empty_append] at whole
          rw [perform_bind_of_ok opening, extend]
          dsimp only
          cases written : before.append path
              (reaching (DataFile.ownLine atLineStart line).toUTF8 interruption) with
          | ok after =>
              have reached : (attempt (·.append path (reaching
                  (DataFile.ownLine atLineStart line).toUTF8 interruption))).perform middle =
                    (.ok (), after) := by
                rw [perform_attempt, whole, written]
              rw [perform_bind_of_ok reached, perform_breakOff]
          | error fault =>
              rw [Workspace.append_eq_error written] at opened
              cases opened

/-- Without an interruption a line is added in steps as it is at once. -/
theorem perform_addLine_eq_appendLine
    (before : Workspace)
    (path : Path)
    (line : String) :
    (addLine path line none).perform before =
      match Folder.appendLine before path line with
      | .ok after => (.ok (), after)
      | .error fault => (.error (.ofAccess fault), before) := by
  rw [perform_addLine, Folder.appendLine]
  cases Folder.takesLine before path with
  | error fault => rfl
  | ok atLineStart =>
      dsimp only [reaching]
      cases before.append path (DataFile.ownLine atLineStart line).toUTF8 <;> rfl

/-- With a free name for the temporary file, a file is replaced in steps as it is at once, and what is
left is the same unless there is a null character before double dots in its path. -/
theorem perform_replaceThrough
    {before : Workspace}
    {path : Path}
    {candidates : List String}
    (free : ∀ directory, before.temporaryPlace path = .ok directory → ∃ candidate ∈ candidates,
      before.entryAt? (directory ++ [temporaryNameFor path candidate]) = none)
    (unnamed : ∀ candidate ∈ candidates, temporaryNameFor path candidate ∉ path.components)
    (bytes : ByteArray) :
    ∃ left,
      ((holdsNull path.text = true → ".." ∉ path.components) → left = before) ∧
      (replaceThrough path bytes candidates none).perform before =
        match before.temporaryPlace path with
        | .error fault => (.error (.ofAccess fault), before)
        | .ok _ =>
            match before.replace path bytes with
            | .ok after => (.ok (), after)
            | .error .nullCharacter => (.error .nullCharacter, left)
            | .error (.system cause) =>
                (.error (.storage (.overwriteFailed cause path)), before) := by
  unfold replaceThrough
  have made := temporaryMade before path candidates
  generalize result : (makeTemporary path candidates).perform before = pair at made
  cases made with
  | @taken directory located taken =>
      obtain ⟨candidate, member, absent⟩ := free directory located
      exact absurd absent (taken candidate member)
  | refused refused =>
      refine ⟨before, fun _ => rfl, ?_⟩
      rw [perform_bind_of_error result, refused]
  | @made directory candidate located member absent =>
      have nonempty : directory ++ [temporaryNameFor path candidate] ≠ [] := by simp
      have moved := perform_fillAndMove before nonempty path .empty bytes
      have same := Workspace.replace_insert absent (unnamed candidate member) bytes
      rw [perform_bind_of_ok result, located]
      dsimp only
      cases replacement : (before.insert (directory ++ [temporaryNameFor path candidate])
          (.file bytes)).replace path bytes with
      | ok after =>
          simp only [replacement] at moved
          rw [← same, replacement, perform_tryCatch_of_ok moved]
          exact ⟨before, fun _ => rfl, rfl⟩
      | error fault =>
          simp only [replacement] at moved
          rw [← same, replacement, perform_tryCatch_of_error moved]
          cases fault with
          | system cause =>
              exact ⟨before, fun _ => rfl, perform_cleanUp path absent bytes cause⟩
          | nullCharacter =>
              have null := Workspace.null_of_replace replacement
              have climbs := Workspace.climbs_of_temporaryPlace located null
              exact ⟨_, fun level => absurd climbs (level null), rfl⟩

end Operation
end Storage
end FlatTables
