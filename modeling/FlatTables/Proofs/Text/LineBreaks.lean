import FlatTables.Proofs.Text.Lines

/-!
# Texts made of lines

A text is made of lines if every line holds no break and ends at one; the last line may have none. A
carriage return with a line feed behind it is one break. Every text is made of exactly the lines it
is cut into, whatever characters break it.
-/

namespace FlatTables
namespace Text

/-- A line ends before a further text: at a break, where a carriage return has no line feed behind
it, or at a carriage return and a line feed. -/
inductive EndsLine (isBreak : Char → Bool) : List Char → List Char → Prop
  | single {c : Char} {rest : List Char}
      (breaks : isBreak c = true)
      (unpaired : c = '\r' → rest.head? ≠ some '\n') :
      EndsLine isBreak [c] rest
  | pair {rest : List Char}
      (breaks : isBreak '\r' = true) :
      EndsLine isBreak ['\r', '\n'] rest

/-- The lines that a text is made of. -/
inductive MadeOf (isBreak : Char → Bool) : List Char → List (List Char) → Prop
  | nothing :
      MadeOf isBreak [] []
  | unended {line : List Char}
      (nonempty : line ≠ [])
      (within : ∀ c ∈ line, isBreak c = false) :
      MadeOf isBreak line [line]
  | ended {line ending rest : List Char} {lines : List (List Char)}
      (within : ∀ c ∈ line, isBreak c = false)
      (ends : EndsLine isBreak ending rest)
      (others : MadeOf isBreak rest lines) :
      MadeOf isBreak (line ++ (ending ++ rest)) (line :: lines)

variable {isBreak : Char → Bool}

/-- A line feed is taken into a break only if it stands behind a carriage return. -/
theorem afterBreak_of_unpaired
    {c : Char}
    {rest : List Char}
    (unpaired : c = '\r' → rest.head? ≠ some '\n') :
    afterBreak c rest = rest := by
  unfold afterBreak
  split
  · rename_i tail
    apply if_neg
    rintro rfl
    exact unpaired rfl rfl
  · rfl

/-- A break ends a line, with a line feed that is taken into it. -/
theorem exists_ending
    {c : Char}
    (breaks : isBreak c = true)
    (rest : List Char) :
    ∃ ending, EndsLine isBreak ending (afterBreak c rest) ∧
      c :: rest = ending ++ afterBreak c rest := by
  by_cases paired : c = '\r' ∧ rest.head? = some '\n'
  · obtain ⟨rfl, first⟩ := paired
    obtain ⟨tail, rfl⟩ := List.head?_eq_some_iff.1 first
    exact ⟨['\r', '\n'], .pair breaks, by simp [afterBreak]⟩
  · have unpaired : c = '\r' → rest.head? ≠ some '\n' := not_and.1 paired
    rw [afterBreak_of_unpaired unpaired]
    exact ⟨[c], .single breaks unpaired, rfl⟩

/-- The line that ends is the first, and the lines of the further text follow. -/
theorem EndsLine.splitLines_append
    {ending rest : List Char}
    (ends : EndsLine isBreak ending rest)
    {line : List Char}
    (within : ∀ c ∈ line, isBreak c = false) :
    splitLines isBreak (line ++ (ending ++ rest)) = line :: splitLines isBreak rest := by
  cases ends with
  | single breaks unpaired =>
      rw [List.singleton_append, splitLines_append_break within breaks,
        afterBreak_of_unpaired unpaired]
  | pair breaks =>
      rw [List.cons_append, List.singleton_append, splitLines_append_break within breaks]
      simp [afterBreak]

/-- A text is cut into the lines it is made of. -/
theorem MadeOf.eq_splitLines
    {text : List Char}
    {lines : List (List Char)}
    (madeOf : MadeOf isBreak text lines) :
    lines = splitLines isBreak text := by
  induction madeOf with
  | nothing => simp [splitLines]
  | unended nonempty within => exact (splitLines_of_no_break nonempty within).symm
  | ended within ends others inductionHypothesis =>
      rw [ends.splitLines_append within, inductionHypothesis]

/-- A character that is no break goes in front of the first line. -/
theorem MadeOf.cons
    {c : Char}
    (noBreak : isBreak c = false)
    {text line : List Char}
    {lines : List (List Char)}
    (madeOf : MadeOf isBreak text (line :: lines)) :
    MadeOf isBreak (c :: text) ((c :: line) :: lines) := by
  have longer : (∀ d ∈ line, isBreak d = false) → ∀ d ∈ c :: line, isBreak d = false :=
    fun within => List.forall_mem_cons.2 ⟨noBreak, within⟩
  generalize equal : line :: lines = all at madeOf
  cases madeOf with
  | nothing => cases equal
  | unended nonempty within =>
      cases equal
      exact .unended (by simp) (longer within)
  | ended within ends others =>
      cases equal
      rw [← List.cons_append]
      exact .ended (longer within) ends others

/-- Every text is made of the lines it is cut into. -/
theorem madeOf_splitLines (text : List Char) : MadeOf isBreak text (splitLines isBreak text) := by
  fun_induction splitLines isBreak text with
  | case1 => exact .nothing
  | case2 c rest breaks inductionHypothesis =>
      obtain ⟨ending, ends, split⟩ := exists_ending breaks rest
      rw [split]
      have empty : ∀ d ∈ ([] : List Char), isBreak d = false := List.forall_mem_nil _
      exact .ended empty ends inductionHypothesis
  | case3 c rest within cut inductionHypothesis =>
      obtain rfl : rest = [] := by
        by_contra nonempty
        exact splitLines_ne_nil isBreak nonempty cut
      exact .unended (by simp) (by simpa using within)
  | case4 c rest within line lines cut inductionHypothesis =>
      rw [cut] at inductionHypothesis
      exact inductionHypothesis.cons (by simpa using within)

/-- A text is made of some lines exactly if it is cut into them. -/
theorem madeOf_iff
    {text : List Char}
    {lines : List (List Char)} :
    MadeOf isBreak text lines ↔ lines = splitLines isBreak text :=
  ⟨MadeOf.eq_splitLines, fun equal => equal ▸ madeOf_splitLines text⟩

/-- Lines without breaks, each with a line feed behind it, make up a text. -/
theorem madeOf_flatMap_newline
    (breaks : isBreak '\n' = true)
    {lines : List (List Char)}
    (within : ∀ line ∈ lines, ∀ c ∈ line, isBreak c = false) :
    MadeOf isBreak (lines.flatMap (· ++ ['\n'])) lines := by
  induction lines with
  | nil => exact .nothing
  | cons line rest inductionHypothesis =>
      rw [List.forall_mem_cons] at within
      rw [List.flatMap_cons, List.append_assoc]
      apply MadeOf.ended within.1 _ (inductionHypothesis within.2)
      exact .single breaks (fun isReturn => absurd isReturn (by decide))

/-- The same of a data file or a script. -/
theorem madeOf_lines_iff
    {text : String}
    {lines : List String} :
    MadeOf isNewline text.toList (lines.map String.toList) ↔ lines = Text.lines text := by
  rw [madeOf_iff, Text.lines]
  constructor
  · intro cut
    rw [← cut, List.map_map]
    exact (List.map_id'' (fun _ => String.ofList_toList) lines).symm
  · rintro rfl
    rw [List.map_map]
    exact List.map_id'' (fun _ => String.toList_ofList) _

end Text
end FlatTables
