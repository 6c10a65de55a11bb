import FlatTables.Proofs.Literal.Integer
import FlatTables.Proofs.Value

/-!
# Integers and their texts

Reading and writing fit together for integers: whatever is read as an integer can be written, and
what is written is read as the same integer. Written and read digits are counted on different sides,
leading zeros included on one side only, but no number has more digits than it is spelled with. The
decimal text of an integer with few enough digits is read in every way in which a literal may hold
it.
-/

namespace FlatTables

open Text (IsPadded)

namespace Decimal

/-- Zeros in front are not written, so a number is written exactly if it is small enough, and then
in plain decimal. -/
theorem integerText?_eq_some_iff
    (n : Int)
    (text : List Char) :
    integerText? n = some text ↔
      n.natAbs < 10 ^ maxIntegerDigits ∧ text = (toString n).toList := by
  have few : (digitsOf n.natAbs).length ≤ maxIntegerDigits ↔ n.natAbs < 10 ^ maxIntegerDigits :=
    Nat.length_toDigits_le_iff (by decide) (by decide)
  have decimal : (toString n).toList =
      if n < 0 then '-' :: digitsOf n.natAbs else digitsOf n.natAbs := by
    cases n with
    | ofNat magnitude =>
        have own : toString (Int.ofNat magnitude) = String.ofList (digitsOf magnitude) := rfl
        have nonnegative : ¬ Int.ofNat magnitude < 0 := Int.not_lt.2 (Int.natCast_nonneg magnitude)
        rw [own, String.toList_ofList, if_neg nonnegative]
        rfl
    | negSucc magnitude =>
        have own : toString (Int.negSucc magnitude) =
            "-" ++ String.ofList (digitsOf (magnitude + 1)) := rfl
        rw [if_pos (Int.negSucc_lt_zero magnitude), own, String.toList_append, String.toList_ofList,
          String.toList_ofList]
        rfl
  rw [decimal, ← few, integerText?]
  split <;> simp_all [eq_comm]

end Decimal

/-- What a text comes to that is read as an integer: it is rejected as it was written, or the integer
has few enough digits to be written, and what is written is read as the integer again. -/
inductive ReadAsInteger (text : String) : Except Rejection Value → Prop
  | rejected : ReadAsInteger text (.error (.invalidLiteral text .integer none))
  | read {n : Int} {written : String} (few : n.natAbs < 10 ^ Decimal.maxIntegerDigits)
      (isWritten : (Value.integer n).format? = some written)
      (readsBack : Literal.readField .integer written = .ok (.integer n)) :
      ReadAsInteger text (.ok (.integer n))

namespace Literal

open Decimal (SpellsInteger integerText?_eq_some_iff maxIntegerDigits)

section
variable
  {n : Int}
  (few : n.natAbs < 10 ^ maxIntegerDigits)
include few

theorem format?_integer : (Value.integer n).format? = some (toString n) := by
  rw [Value.format?, (integerText?_eq_some_iff n _).2 ⟨few, rfl⟩, Option.map_some,
    String.ofList_toList]

theorem spellsInteger_toString : SpellsInteger (toString n).toList n :=
  (Decimal.readInteger?_eq_some_iff _ n).1
    (Decimal.readInteger?_of_integerText? ((integerText?_eq_some_iff n _).2 ⟨few, rfl⟩))

/-- The decimal text of an integer is read from a data file. -/
theorem readField_toString : readField .integer (toString n) = .ok (.integer n) := by
  rw [readField_eq_ok_iff, readAs?,
    (Decimal.readInteger?_eq_some_iff _ n).2 (spellsInteger_toString few), Option.map_some]

end

/-- Reading a text in one of the two ways is reading a part of it. -/
theorem readAsInteger_of_readAs?
    {text : String}
    {result : Except Rejection Value}
    (part : List Char)
    (isRead : result = match readAs? .integer part with
      | some value => .ok value
      | none => .error (.invalidLiteral text .integer none)) :
    ReadAsInteger text result := by
  subst isRead
  cases read : Decimal.readInteger? part with
  | none =>
      rw [readAs?, read]
      exact .rejected
  | some n =>
      obtain ⟨written, isWritten⟩ := Decimal.integerText?_of_readInteger? read
      have few := ((integerText?_eq_some_iff n written).1 isWritten).1
      rw [readAs?, read]
      exact .read few (format?_integer few) (readField_toString few)

/-- A literal or field is rejected or read as an integer that is written and read again, and every
integer with few enough digits is written in decimal and read from that text, with blanks around it
or in single quotes with blanks inside and outside. -/
theorem integer_text_closed :
    (∀ literal, ReadAsInteger literal (coerce .integer literal)) ∧
    (∀ field, ReadAsInteger field (readField .integer field)) ∧
    ∀ n : Int, n.natAbs < 10 ^ maxIntegerDigits →
      (Value.integer n).format? = some (toString n) ∧
      readField .integer (toString n) = .ok (.integer n) ∧
      (∀ literal : String, IsPadded (toString n).toList literal.toList →
        coerce .integer literal = .ok (.integer n)) ∧
      ∀ (content : List Char) (literal : String), IsPadded (toString n).toList content →
        IsPadded ('\'' :: (content ++ ['\''])) literal.toList →
          coerce .integer literal = .ok (.integer n) := by
  refine ⟨fun literal => readAsInteger_of_readAs? _ rfl, fun field =>
    readAsInteger_of_readAs? _ rfl, fun n few => ?_⟩
  have spells := spellsInteger_toString few
  refine ⟨format?_integer few, readField_toString few, fun literal padded => ?_,
    fun content literal inside outside => ?_⟩
  · exact (coerce_integer_eq_ok_iff literal _).2 ⟨n, .bare spells padded, rfl⟩
  · exact (coerce_integer_eq_ok_iff literal _).2 ⟨n, .quoted spells inside outside, rfl⟩

/-- The least integer with a text, and a small one in quotes with blanks on either side of them. -/
theorem integer_text_closed_least :
    readField .integer (toString (1 - 10 ^ 4300 : Int)) = .ok (.integer (1 - 10 ^ 4300)) ∧
      coerce .integer "\t' -7'" = .ok (.integer (-7)) := by
  have least : (1 - 10 ^ 4300 : Int).natAbs < 10 ^ maxIntegerDigits := by
    decide +kernel
  have blank : Text.IsPadding [' '] := List.forall_mem_singleton.2 (by decide)
  have tab : Text.IsPadding ['\t'] := List.forall_mem_singleton.2 (by decide)
  have inside : IsPadded (toString (-7 : Int)).toList ([' '] ++ (['-', '7'] ++ [])) :=
    .intro blank (List.forall_mem_nil _)
  have outside : IsPadded ('\'' :: (([' '] ++ (['-', '7'] ++ [])) ++ ['\'']))
      (['\t'] ++ (('\'' :: (([' '] ++ (['-', '7'] ++ [])) ++ ['\''])) ++ [])) :=
    .intro tab (List.forall_mem_nil _)
  have read := integer_text_closed.2.2
  exact ⟨(read _ least).2.1, (read (-7) (by decide +kernel)).2.2.2 _ _ inside outside⟩

end Literal
end FlatTables
