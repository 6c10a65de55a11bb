import FlatTables.Fault
import Mathlib.Data.List.Forall2

/-!
# Computations that may fail

What it means that a computation made of smaller ones has succeeded or failed. Plans, loads and
writes are taken apart with these lemmas instead of being unfolded. A computation that goes through
a list stops at the first member that does not pass.
-/

namespace FlatTables

theorem bind_of_ok
    {step : Except ε α}
    {next : α → Except ε β}
    {value : α}
    (succeeded : step = .ok value) :
    (step >>= next) = next value := by
  rw [succeeded]
  rfl

theorem bind_of_error
    {step : Except ε α}
    {next : α → Except ε β}
    {fault : ε}
    (failed : step = .error fault) :
    (step >>= next) = .error fault := by
  rw [failed]
  rfl

/-- A sequence succeeds exactly if both of its parts do. -/
theorem bind_eq_ok_iff
    {step : Except ε α}
    {next : α → Except ε β}
    {result : β} :
    (step >>= next) = .ok result ↔ ∃ value, step = .ok value ∧ next value = .ok result := by
  cases step <;> simp [bind, Except.bind]

/-- A sequence fails exactly if its first part does or, after it, the second. -/
theorem bind_eq_error_iff
    {step : Except ε α}
    {next : α → Except ε β}
    {fault : ε} :
    (step >>= next) = .error fault ↔
      step = .error fault ∨ ∃ value, step = .ok value ∧ next value = .error fault := by
  cases step <;> simp [bind, Except.bind]

theorem map_eq_ok_iff
    {step : Except ε α}
    {change : α → β}
    {result : β} :
    step.map change = .ok result ↔ ∃ value, step = .ok value ∧ change value = result := by
  cases step <;> simp [Except.map]

theorem map_eq_error_iff
    {step : Except ε α}
    {change : α → β}
    {fault : ε} :
    step.map change = .error fault ↔ step = .error fault := by
  cases step <;> simp [Except.map]

/-- A change of the result is a change of what there is of it. -/
theorem toOption_map
    (step : Except ε α)
    (change : α → β) :
    (step.map change).toOption = step.toOption.map change := by
  cases step <;> rfl

@[simp] theorem mapError_ok
    (rename : ε → δ)
    (value : α) :
    (Except.ok value).mapError rename = .ok value :=
  rfl

@[simp] theorem mapError_error
    (rename : ε → δ)
    (fault : ε) :
    (Except.error fault : Except ε α).mapError rename = .error (rename fault) :=
  rfl

theorem mapError_eq_ok_iff
    {step : Except ε α}
    {rename : ε → δ}
    {result : α} :
    step.mapError rename = .ok result ↔ step = .ok result := by
  cases step <;> simp

theorem mapError_eq_error_iff
    {step : Except ε α}
    {rename : ε → δ}
    {fault : δ} :
    step.mapError rename = .error fault ↔ ∃ own, step = .error own ∧ rename own = fault := by
  cases step <;> simp

/-! ## Going through a list -/

/-- All members of a list have a value if each of them has one. -/
theorem exists_mapM_eq_some
    {value? : α → Option β}
    {list : List α}
    (each : ∀ own ∈ list, ∃ value, value? own = some value) :
    ∃ values, list.mapM value? = some values := by
  induction list with
  | nil => exact ⟨[], rfl⟩
  | cons first rest inductionHypothesis =>
      obtain ⟨⟨value, here⟩, others⟩ := List.forall_mem_cons.1 each
      obtain ⟨values, there⟩ := inductionHypothesis others
      exact ⟨value :: values, by simp [List.mapM_cons, here, there]⟩

/-- A member of a list is reached: it stands in the list, and all members before it pass. -/
def Reached (passed : α → Prop) (list : List α) (own : α) : Prop :=
  ∃ before after, list = before ++ own :: after ∧ ∀ other ∈ before, passed other

section
variable {passed : α → Prop} {first own : α} {rest : List α}

@[simp] theorem not_reached_nil : ¬ Reached passed [] own := by
  rintro ⟨before, after, split, _⟩
  simp at split

theorem Reached.mem
    {list : List α}
    (reached : Reached passed list own) :
    own ∈ list := by
  obtain ⟨before, after, rfl, _⟩ := reached
  exact List.mem_append_right before List.mem_cons_self

/-- What is reached in a list is reached in the list of images. -/
theorem Reached.map
    (passed : α → Prop)
    {change : β → α}
    {list : List β}
    {own : β}
    (reached : Reached (fun other => passed (change other)) list own) :
    Reached passed (list.map change) (change own) := by
  obtain ⟨before, after, rfl, passedBefore⟩ := reached
  exact ⟨before.map change, after.map change, by simp, List.forall_mem_map.2 passedBefore⟩

/-- The first member is reached, and if it passes, all that are reached in the rest. -/
theorem reached_cons_iff :
    Reached passed (first :: rest) own ↔ own = first ∨ passed first ∧ Reached passed rest own := by
  constructor
  · rintro ⟨before, after, split, passedBefore⟩
    cases before with
    | nil => exact .inl (List.cons.inj split).1.symm
    | cons other others =>
        obtain ⟨rfl, rfl⟩ := List.cons.inj split
        obtain ⟨passedFirst, passedOthers⟩ := List.forall_mem_cons.1 passedBefore
        exact .inr ⟨passedFirst, others, after, rfl, passedOthers⟩
  · rintro (rfl | ⟨passedFirst, before, after, rfl, passedBefore⟩)
    · exact ⟨[], rest, rfl, by simp⟩
    · exact ⟨first :: before, after, rfl, List.forall_mem_cons.2 ⟨passedFirst, passedBefore⟩⟩

theorem exists_reached_cons_iff {stopped : α → Prop} :
    (∃ own, Reached passed (first :: rest) own ∧ stopped own) ↔
      stopped first ∨ passed first ∧ ∃ own, Reached passed rest own ∧ stopped own := by
  simp only [reached_cons_iff, or_and_right, exists_or, exists_eq_left, and_assoc,
    exists_and_left]

/-- A numbered member is reached exactly if the member is, and its number tells how many stand
before it. -/
theorem reached_zipIdx_iff
    (passed : α → Prop)
    {list : List α}
    {start : Nat}
    {numbered : α × Nat} :
    Reached (fun other => passed other.1) (list.zipIdx start) numbered ↔
      ∃ before after, list = before ++ numbered.1 :: after ∧
        numbered.2 = start + before.length ∧ ∀ other ∈ before, passed other := by
  obtain ⟨own, number⟩ := numbered
  constructor
  · rintro ⟨before, after, split, passedBefore⟩
    have unnumbered := congrArg (List.map Prod.fst) split
    rw [List.zipIdx_map_fst, List.map_append, List.map_cons] at unnumbered
    have place : (list.zipIdx start)[before.length]? = some (own, number) := by
      rw [split, List.getElem?_append_right (Nat.le_refl _), Nat.sub_self]
      rfl
    rw [List.getElem?_zipIdx, Option.map_eq_some_iff] at place
    obtain ⟨_, _, equal⟩ := place
    refine ⟨before.map Prod.fst, after.map Prod.fst, unnumbered, ?_, ?_⟩
    · rw [List.length_map]
      exact (congrArg Prod.snd equal).symm
    · rintro _ member
      obtain ⟨other, inBefore, rfl⟩ := List.mem_map.1 member
      exact passedBefore other inBefore
  · rintro ⟨before, after, rfl, rfl, passedBefore⟩
    refine ⟨before.zipIdx start, after.zipIdx (start + before.length + 1), ?_, ?_⟩
    · rw [List.zipIdx_append, List.zipIdx_cons]
    · exact fun other member => passedBefore other.1 (List.fst_mem_of_mem_zipIdx member)

/-- A computation for every member of a list succeeds exactly if each of them does. -/
theorem mapM_eq_ok_iff
    {step : α → Except ε β}
    {list : List α}
    {results : List β} :
    list.mapM step = .ok results ↔
      List.Forall₂ (fun own result => step own = .ok result) list results := by
  induction list generalizing results with
  | nil => simp [pure, Except.pure, eq_comm]
  | cons first rest inductionHypothesis =>
      rw [List.mapM_cons, List.forall₂_cons_left_iff]
      simp only [bind_eq_ok_iff, inductionHypothesis, pure, Except.pure, Except.ok.injEq]
      constructor
      · rintro ⟨result, here, others, there, rfl⟩
        exact ⟨result, others, here, there, rfl⟩
      · rintro ⟨result, others, here, there, rfl⟩
        exact ⟨result, here, others, there, rfl⟩

/-- It fails exactly if the computation for a member fails and those for all before it succeed. -/
theorem mapM_eq_error_iff
    {step : α → Except ε β}
    {list : List α}
    {fault : ε} :
    list.mapM step = .error fault ↔
      ∃ own, Reached (fun other => ∃ result, step other = .ok result) list own ∧
        step own = .error fault := by
  induction list with
  | nil => simp [pure, Except.pure]
  | cons first rest inductionHypothesis =>
      rw [List.mapM_cons, exists_reached_cons_iff, ← inductionHypothesis]
      simp only [bind_eq_error_iff, pure, Except.pure, reduceCtorEq, and_false, exists_false,
        or_false, exists_and_right]

/-- Either all members of a list pass, or one is reached that does not. -/
theorem forall_or_exists_reached (passed : α → Prop) (list : List α) :
    (∀ own ∈ list, passed own) ∨ ∃ own, Reached passed list own ∧ ¬ passed own := by
  induction list with
  | nil => exact .inl (by simp)
  | cons first rest inductionHypothesis =>
      by_cases passes : passed first
      · rcases inductionHypothesis with all | ⟨own, reached, fails⟩
        · exact .inl (List.forall_mem_cons.2 ⟨passes, all⟩)
        · exact .inr ⟨own, reached_cons_iff.2 (.inr ⟨passes, reached⟩), fails⟩
      · exact .inr ⟨first, reached_cons_iff.2 (.inl rfl), passes⟩

end

end FlatTables
