import FlatTables.Proofs.Decimal.ReadBack
import FlatTables.Proofs.Literal
import FlatTables.Proofs.Text.Lines

/-!
# Written values

A value written as a field and read back is the same value with the blanks around it cut off, which
only a text can have. The exceptions are infinities and not a number, whose fields are no numbers.
Every value that was read from a literal or a field has a text of its own.
-/

namespace FlatTables

open Decimal (IsNumberChar)

/-! ## Trimmed and finite values -/

/-- The value without the blanks around it, if it is a text. -/
def Value.trimmed : Value → Value
  | .text s => .text (Text.trim s)
  | value => value

/-- The value is no infinity and not the one that is no number. -/
def Value.Finite : Value → Prop
  | .real x => ∃ negative magnitude, x = .finite negative magnitude
  | _ => True

/-- The value has a text: if it is an integer, it has not too many digits. -/
def Value.Writable (value : Value) : Prop :=
  ∃ field, value.format? = some field

/-- The row with its texts trimmed. -/
def Row.trimmed (row : Row) : Row :=
  row.map Value.trimmed

/-- Every real number of the row is finite. -/
def Row.Finite (row : Row) : Prop :=
  ∀ value ∈ row, value.Finite

/-- Every value of the row has a text. -/
def Row.Writable (row : Row) : Prop :=
  ∀ value ∈ row, value.Writable

instance : DecidablePred Value.Finite
  | .real (.finite negative magnitude) => .isTrue ⟨negative, magnitude, rfl⟩
  | .real (.infinite _) => .isFalse fun ⟨_, _, equal⟩ => nomatch equal
  | .real .nan => .isFalse fun ⟨_, _, equal⟩ => nomatch equal
  | .integer _ => .isTrue trivial
  | .text _ => .isTrue trivial

instance (row : Row) : Decidable row.Finite :=
  inferInstanceAs (Decidable (∀ value ∈ row, value.Finite))

theorem Value.trimmed_text
    {s : String}
    (same : Text.trimChars s.toList = s.toList) :
    (Value.text s).trimmed = .text s := by
  rw [Value.trimmed, Text.trim, same, String.ofList_toList]

/-! ## Texts of numbers -/

theorem isBlank_of_isNumberChar
    {c : Char}
    (number : IsNumberChar c) :
    Text.isBlank c = false := by
  rcases number with digit | member
  · have bounds : 48 ≤ c.toNat ∧ c.toNat ≤ 57 := by
      simpa [Char.isDigit, UInt32.le_iff_toNat_le] using digit
    simp only [Text.isBlank, Text.blankRanges, Text.CodeRanges.contains,
      Text.CodeRanges.containsCode]
    rw [if_neg (by omega), if_neg (by omega), if_pos (by omega)]
    simp
    omega
  · have notBlank : ['+', '-', '.', 'e', 'i', 'n', 'f', 'a'].all (!Text.isBlank ·) := by decide
    simpa using List.all_eq_true.1 notBlank c member

theorem isUnstorable_of_isNumberChar
    {c : Char}
    (number : IsNumberChar c) :
    Literal.isUnstorable c = false := by
  rcases number with digit | member
  · simp only [Literal.isUnstorable, Literal.fieldSeparator, Bool.or_eq_false_iff,
      beq_eq_false_iff_ne]
    refine ⟨⟨?_, ?_⟩, ?_⟩ <;>
    · rintro rfl
      revert digit
      decide
  · have storable : ['+', '-', '.', 'e', 'i', 'n', 'f', 'a'].all (!Literal.isUnstorable ·) := by
      decide
    simpa using List.all_eq_true.1 storable c member

/-- The text of an integer or a real number is made of the characters of numbers. -/
theorem isNumberChar_of_format?
    {value : Value}
    {field : String}
    (formatted : value.format? = some field)
    (notText : value.type ≠ .text) :
    field.toList ≠ [] ∧ ∀ c ∈ field.toList, IsNumberChar c := by
  cases value with
  | integer n =>
      obtain ⟨written, integerText, rfl⟩ := Option.map_eq_some_iff.1 formatted
      simpa using Decimal.isNumberChar_integerText? integerText
  | text s => exact absurd rfl notText
  | real x =>
      cases formatted
      simpa using Decimal.isNumberChar_realText x

/-! ## Fields -/

theorem readField_eq_ok_iff
    (type : AttributeType)
    (field : String)
    (value : Value) :
    Literal.readField type field = .ok value ↔
      Literal.readAs? type field.toList = some value := by
  unfold Literal.readField
  cases Literal.readAs? type field.toList <;> simp

/-- A written value is read back, trimmed, exactly if it is finite. -/
theorem readField_of_format?
    {value : Value}
    {field : String}
    (formatted : value.format? = some field)
    (read : Value) :
    Literal.readField value.type (Text.trim field) = .ok read ↔
      value.Finite ∧ read = value.trimmed := by
  rw [readField_eq_ok_iff, Text.trim, String.toList_ofList]
  have clean : value.type ≠ .text → Text.trimChars field.toList = field.toList := fun notText =>
    Text.trimChars_of_no_blank fun c member =>
      isBlank_of_isNumberChar ((isNumberChar_of_format? formatted notText).2 c member)
  cases value with
  | integer n =>
      rw [clean (by simp [Value.type])]
      obtain ⟨written, integerText, rfl⟩ := Option.map_eq_some_iff.1 formatted
      simp [Literal.readAs?, Value.type, Decimal.readInteger?_of_integerText? integerText,
        Value.Finite, Value.trimmed, eq_comm]
  | text s =>
      cases formatted
      simp [Literal.readAs?, Value.type, Value.Finite, Value.trimmed, Text.trim, eq_comm]
  | real x =>
      rw [clean (by simp [Value.type])]
      cases formatted
      simp only [Literal.readAs?, Value.type, String.toList_ofList, Option.map_eq_some_iff,
        Decimal.readReal?_realText, Value.Finite, Value.trimmed]
      constructor
      · rintro ⟨_, ⟨finite, rfl⟩, rfl⟩
        exact ⟨finite, rfl⟩
      · rintro ⟨finite, rfl⟩
        exact ⟨x, ⟨finite, rfl⟩, rfl⟩

/-- A value that was read has a text. -/
theorem writable_of_readAs?
    {type : AttributeType}
    {text : List Char}
    {value : Value}
    (read : Literal.readAs? type text = some value) :
    value.Writable := by
  cases type with
  | integer =>
      obtain ⟨n, readInteger, rfl⟩ := Option.map_eq_some_iff.1 read
      obtain ⟨written, integerText⟩ := Decimal.integerText?_of_readInteger? readInteger
      exact ⟨String.ofList written, by rw [Value.format?, integerText, Option.map_some]⟩
  | text =>
      cases read
      exact ⟨_, rfl⟩
  | real =>
      obtain ⟨x, _, rfl⟩ := Option.map_eq_some_iff.1 read
      exact ⟨_, rfl⟩

/-- The row that literals are read as can be written. -/
theorem writable_of_coerceAll
    {attributes : List Attribute}
    {literals : List String}
    {row : Row}
    (read : Literal.coerceAll attributes literals = .ok row) :
    row.Writable := by
  fun_induction Literal.coerceAll attributes literals generalizing row with
  | case1 => cases read
  | case2 attr attrs literal literals value first inductionHypothesis =>
      obtain ⟨values, others, rfl⟩ := map_eq_ok_iff.1 read
      intro other member
      rcases List.mem_cons.1 member with rfl | inRest
      · exact writable_of_readAs? ((Literal.coerce_eq_ok_iff ..).1 first)
      · exact inductionHypothesis others other inRest
  | case3 =>
      cases read
      intro value member
      cases member

end FlatTables
