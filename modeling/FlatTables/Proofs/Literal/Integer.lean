import FlatTables.Proofs.Decimal.Spelling
import FlatTables.Proofs.Literal
import FlatTables.Proofs.Text.Padding

/-!
# Integer literals

A literal stands for an integer if it spells the integer, if it does so with blanks around it, or if
it holds such a text in single quotes, which may have blanks around them too. These are all literals
that are read as integers.
-/

namespace FlatTables
namespace Literal

open Decimal (SpellsInteger readInteger?_eq_some_iff)
open Text (IsPadded isPadded_trimChars)

/-- The literals that stand for an integer. -/
inductive WritesInteger : List Char → Int → Prop
  | bare {core literal : List Char} {n : Int} (spells : SpellsInteger core n)
      (padded : IsPadded core literal) :
      WritesInteger literal n
  | quoted {core content literal : List Char} {n : Int} (spells : SpellsInteger core n)
      (inside : IsPadded core content)
      (outside : IsPadded ('\'' :: (content ++ ['\''])) literal) :
      WritesInteger literal n

theorem body_integer (literal : List Char) :
    body .integer literal =
      Text.trimChars (stripQuotesChars (Text.trimChars literal)) :=
  rfl

/-- Whatever is read as an integer is written in one of the two ways. -/
theorem writesInteger_of_readInteger?
    {literal : List Char}
    {n : Int}
    (read : Decimal.readInteger? (body .integer literal) = some n) :
    WritesInteger literal n := by
  have spells := (readInteger?_eq_some_iff _ n).1 read
  have outside := isPadded_trimChars literal
  rw [body_integer] at spells
  rcases stripQuotesChars_cases (Text.trimChars literal) with unquoted | quoted
  · rw [unquoted, Text.trimChars_trimChars] at spells
    exact .bare spells outside
  · rw [quoted] at outside
    exact .quoted spells (isPadded_trimChars _) outside

section
variable
  {core : List Char}
  {n : Int}
  (spells : SpellsInteger core n)
include spells

/-- A spelled integer has no blanks to lose. -/
theorem trimChars_of_spellsInteger : Text.trimChars core = core := by
  refine Text.trimChars_of_no_blank fun c member => ?_
  rcases spells.isDigit_or_sign c member with digit | rfl | rfl
  · exact Text.isBlank_of_isDigit digit
  · decide
  · decide

/-- A spelled integer has no quotes to lose. -/
theorem stripQuotesChars_of_spellsInteger : stripQuotesChars core = core := by
  refine stripQuotesChars_of_head fun first => ?_
  rcases spells.isDigit_or_sign _ (List.mem_of_mem_head? first) with digit | equal | equal
  · exact absurd digit (by decide)
  · exact absurd equal (by decide)
  · exact absurd equal (by decide)

end

/-- What is read of a literal for an integer is the spelling of the integer. -/
theorem WritesInteger.spellsInteger_body
    {literal : List Char}
    {n : Int}
    (writes : WritesInteger literal n) :
    SpellsInteger (body .integer literal) n := by
  cases writes with
  | bare spells padded =>
      rw [body_integer, padded.trimChars_eq, trimChars_of_spellsInteger spells,
        stripQuotesChars_of_spellsInteger spells, trimChars_of_spellsInteger spells]
      exact spells
  | quoted spells inside outside =>
      rename_i core content
      have whole : Text.trimChars ('\'' :: (content ++ ['\''])) = '\'' :: (content ++ ['\'']) :=
        Text.trimChars_of_ends (by simp; decide) (by simp [List.getLast?_cons]; decide)
      rw [body_integer, outside.trimChars_eq, whole, stripQuotesChars_of_quoted, inside.trimChars_eq,
        trimChars_of_spellsInteger spells]
      exact spells

/-- A literal is read as an integer exactly if it stands for it. -/
theorem coerce_integer_eq_ok_iff
    (literal : String)
    (value : Value) :
    coerce .integer literal = .ok value ↔
      ∃ n, WritesInteger literal.toList n ∧ value = .integer n := by
  rw [coerce_eq_ok_iff, readAs?, Option.map_eq_some_iff]
  constructor
  · rintro ⟨n, read, rfl⟩
    exact ⟨n, writesInteger_of_readInteger? read, rfl⟩
  · rintro ⟨n, writes, rfl⟩
    exact ⟨n, (readInteger?_eq_some_iff _ n).2 writes.spellsInteger_body, rfl⟩

/-- No literal stands for two integers. -/
theorem WritesInteger.unique
    {literal : List Char}
    {m n : Int}
    (first : WritesInteger literal m)
    (second : WritesInteger literal n) :
    m = n := by
  have readFirst := (readInteger?_eq_some_iff _ m).2 first.spellsInteger_body
  have readSecond := (readInteger?_eq_some_iff _ n).2 second.spellsInteger_body
  exact Option.some.inj (readFirst.symm.trans readSecond)

end Literal
end FlatTables
