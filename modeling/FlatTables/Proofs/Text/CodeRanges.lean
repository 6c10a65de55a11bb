import FlatTables.Text.Blank
import FlatTables.Text.Line
import FlatTables.Text.Word

/-!
# Classes of characters

What holds of all characters of a class can be computed from its ranges: a class has no character in
common with another if no two of their ranges overlap. So no word character is blank. Every character
that bounds a line is. Of classes of ASCII characters, it can be computed character by character.
-/

namespace FlatTables
namespace Text

/-! ## Ranges -/

/-- A code point of a class lies in one of its ranges. -/
theorem CodeRanges.exists_range
    {ranges : CodeRanges}
    {code : Nat}
    (contained : ranges.containsCode code = true) :
    ∃ range ∈ ranges, range.1 ≤ code ∧ code ≤ range.2 := by
  induction ranges with
  | nil => cases contained
  | cons range rest inductionHypothesis =>
      obtain ⟨first, last⟩ := range
      simp only [containsCode] at contained
      split at contained
      · cases contained
      · rename_i above
        rcases Bool.or_eq_true_iff.1 contained with below | inRest
        · exact ⟨(first, last), List.mem_cons_self, Nat.le_of_not_lt above, of_decide_eq_true below⟩
        · obtain ⟨own, member, bounds⟩ := inductionHypothesis inRest
          exact ⟨own, List.mem_cons_of_mem _ member, bounds⟩

/-- Two classes are apart if of any two ranges one lies below the other. -/
theorem CodeRanges.not_contains_of_apart
    {ranges others : CodeRanges}
    (apart : ranges.all (fun own => others.all fun other =>
      own.2 < other.1 || other.2 < own.1) = true)
    {c : Char}
    (contained : ranges.contains c = true) :
    others.contains c = false := by
  obtain ⟨own, member, lower, upper⟩ := exists_range contained
  rw [Bool.eq_false_iff]
  intro containedToo
  obtain ⟨other, otherMember, otherLower, otherUpper⟩ := exists_range containedToo
  have disjoint := List.all_eq_true.1 (List.all_eq_true.1 apart own member) other otherMember
  simp only [Bool.or_eq_true, decide_eq_true_eq] at disjoint
  omega

/-- No word character is blank. -/
theorem isBlank_of_isWord
    {c : Char}
    (word : isWord c = true) :
    isBlank c = false :=
  CodeRanges.not_contains_of_apart (by decide +kernel) word

/-- Every character that bounds a line is blank. -/
theorem isBlank_of_isLineBoundary
    {c : Char}
    (boundary : isLineBoundary c = true) :
    isBlank c = true := by
  simp only [isLineBoundary, Bool.or_eq_true, Bool.and_eq_true, decide_eq_true_eq,
    beq_iff_eq] at boundary
  simp only [isBlank, blankRanges, CodeRanges.contains, CodeRanges.containsCode]
  grind

/-! ## ASCII characters -/

/-- An implication that is computed for the ASCII characters holds for each of them. -/
theorem of_ascii
    {p q : Char → Bool}
    (holds : (List.range 128).all (fun code => !p (Char.ofNat code) || q (Char.ofNat code)) = true)
    {c : Char}
    (ascii : c.toNat < 128)
    (premise : p c = true) :
    q c = true := by
  have own := List.all_eq_true.1 holds c.toNat (List.mem_range.2 ascii)
  rw [Char.ofNat_toNat, premise] at own
  exact own

/-- A letter of this kind is an ASCII character. -/
theorem ascii_of_isAlpha
    {c : Char}
    (alpha : c.isAlpha = true) :
    c.toNat < 128 := by
  have below : ∀ last : Char, last.toNat < 128 → c.val ≤ last.val → c.toNat < 128 :=
    fun last ascii le => Nat.lt_of_le_of_lt (UInt32.le_iff_toNat_le.1 le) ascii
  rcases Bool.or_eq_true_iff.1 alpha with upper | lower
  · exact below 'Z' (by decide) (of_decide_eq_true upper).2
  · exact below 'z' (by decide) (of_decide_eq_true (Bool.and_eq_true_iff.1 lower).2)

end Text
end FlatTables
