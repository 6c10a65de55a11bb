import FlatTables.Proofs.Text.Lines

/-!
# Padded texts

Blanks behind a text change nothing for what looks at its front for other characters, and trimming
drops them again.
-/

namespace FlatTables
namespace Text

theorem ne_of_isBlank
    {c d : Char}
    (blank : isBlank c = true)
    (notBlank : isBlank d = false) :
    c ≠ d := by
  rintro rfl
  rw [blank] at notBlank
  cases notBlank

theorem notBlank_of_any
    {mark : List Char}
    (noBlank : mark.any isBlank = false) :
    ∀ c ∈ mark, isBlank c = false :=
  fun _ member => Bool.eq_false_iff.2 (List.any_eq_false.1 noBlank _ member)

/-- A text that holds blanks only. -/
def IsPadding (padding : List Char) : Prop :=
  ∀ c ∈ padding, isBlank c = true

/-- A trimmed text is a text without the blanks before it and some behind it. -/
theorem exists_padding (s : List Char) :
    ∃ padding, IsPadding padding ∧ s.dropWhile isBlank = trimChars s ++ padding := by
  refine ⟨((s.dropWhile isBlank).reverse.takeWhile isBlank).reverse, ?_, ?_⟩
  · intro c member
    exact List.mem_takeWhile_imp (List.mem_reverse.1 member)
  · rw [trimChars, trimEndChars, ← List.reverse_append, List.takeWhile_append_dropWhile,
      List.reverse_reverse]

namespace IsPadding

theorem append
    {padding further : List Char}
    (blank : IsPadding padding)
    (furtherBlank : IsPadding further) :
    IsPadding (padding ++ further) :=
  List.forall_mem_append.2 ⟨blank, furtherBlank⟩

section
variable
  {padding : List Char}
  (blank : IsPadding padding)
include blank

theorem takeWhile (holds : Char → Bool) : IsPadding (padding.takeWhile holds) :=
  fun c member => blank c ((List.takeWhile_prefix holds).subset member)

theorem dropWhile (holds : Char → Bool) : IsPadding (padding.dropWhile holds) :=
  fun c member => blank c ((List.dropWhile_suffix holds).subset member)

theorem dropWhile_isBlank : padding.dropWhile isBlank = [] :=
  List.dropWhile_eq_nil_iff.2 blank

/-- What stops before blanks stops before those behind a text. -/
theorem takeWhile_append
    {holds : Char → Bool}
    (stops : ∀ c, isBlank c = true → holds c = false)
    (text : List Char) :
    (text ++ padding).takeWhile holds = text.takeWhile holds := by
  induction text with
  | nil =>
      cases padding with
      | nil => rfl
      | cons c rest => rw [List.nil_append, List.takeWhile_cons_of_neg (by simp [stops c, blank c]),
          List.takeWhile_nil]
  | cons c rest inductionHypothesis =>
      rw [List.cons_append, List.takeWhile_cons, List.takeWhile_cons, inductionHypothesis]

/-- Another character stands first in a padded text if it stands first in the text. -/
theorem head?_append_iff
    {c : Char}
    (notBlank : isBlank c = false)
    (text : List Char) :
    (text ++ padding).head? = some c ↔ text.head? = some c := by
  cases text with
  | nil =>
      rw [List.nil_append, List.head?_nil]
      refine ⟨fun first => ?_, nofun⟩
      rw [blank c (List.mem_of_mem_head? first)] at notBlank
      cases notBlank
  | cons d rest => rfl

/-- A mark without blanks stands at the front of a padded text if it does at that of the text. -/
theorem isPrefixOf_append
    {mark : List Char}
    (notBlank : ∀ c ∈ mark, isBlank c = false)
    (text : List Char) :
    mark.isPrefixOf (text ++ padding) = mark.isPrefixOf text := by
  induction mark generalizing text with
  | nil => simp
  | cons c mark inductionHypothesis =>
      rw [List.forall_mem_cons] at notBlank
      cases text with
      | nil =>
          cases padding with
          | nil => rfl
          | cons d rest =>
              have unlike : c ≠ d :=
                (ne_of_isBlank (blank d List.mem_cons_self) notBlank.1).symm
              simp [List.isPrefixOf, unlike]
      | cons d text =>
          simp only [List.cons_append, List.isPrefixOf, inductionHypothesis notBlank.2 text]

theorem take_append_iff
    {mark : List Char}
    (notBlank : ∀ c ∈ mark, isBlank c = false)
    (text : List Char) :
    (text ++ padding).take mark.length = mark ↔ text.take mark.length = mark := by
  rw [eq_comm, ← List.prefix_iff_eq_take, ← List.isPrefixOf_iff_prefix,
    blank.isPrefixOf_append notBlank, List.isPrefixOf_iff_prefix, List.prefix_iff_eq_take, eq_comm]

theorem trimEndChars_append (text : List Char) :
    trimEndChars (text ++ padding) = trimEndChars text := by
  rw [trimEndChars, trimEndChars, List.reverse_append, List.dropWhile_append_of_pos]
  exact fun c member => blank c (List.mem_reverse.1 member)

theorem dropWhile_isBlank_append (text : List Char) :
    (text ++ padding).dropWhile isBlank =
      if text.dropWhile isBlank = [] then [] else text.dropWhile isBlank ++ padding := by
  rw [List.dropWhile_append, blank.dropWhile_isBlank]
  simp

/-- Trimming drops blanks behind a text. -/
theorem trimChars_append (text : List Char) : trimChars (text ++ padding) = trimChars text := by
  rw [trimChars, trimChars, blank.dropWhile_isBlank_append]
  split
  · rename_i empty
    rw [empty]
  · exact blank.trimEndChars_append _

/-- Trimming drops blanks before a text. -/
theorem append_trimChars (text : List Char) : trimChars (padding ++ text) = trimChars text := by
  rw [trimChars, trimChars, List.dropWhile_append_of_pos blank]

end

end IsPadding

/-! ## Texts with blanks around them -/

/-- The text with blanks before it and behind it, or on one side, or on none. -/
inductive IsPadded (core : List Char) : List Char → Prop
  | intro {before behind : List Char} (beforeBlank : IsPadding before)
      (behindBlank : IsPadding behind) :
      IsPadded core (before ++ (core ++ behind))

/-- Every text is what trimming leaves of it, with blanks around. -/
theorem isPadded_trimChars (s : List Char) : IsPadded (trimChars s) s := by
  obtain ⟨behind, behindBlank, split⟩ := exists_padding s
  have beforeBlank : IsPadding (s.takeWhile isBlank) := fun c member => List.mem_takeWhile_imp member
  have whole := List.takeWhile_append_dropWhile (p := isBlank) (l := s)
  rw [split] at whole
  have padded : IsPadded (trimChars s) (s.takeWhile isBlank ++ (trimChars s ++ behind)) :=
    .intro beforeBlank behindBlank
  rwa [whole] at padded

/-- Blanks around a text do not matter for what trimming leaves of it. -/
theorem IsPadded.trimChars_eq
    {core text : List Char}
    (padded : IsPadded core text) :
    trimChars text = trimChars core := by
  obtain ⟨beforeBlank, behindBlank⟩ := padded
  rw [beforeBlank.append_trimChars, behindBlank.trimChars_append]

end Text
end FlatTables
