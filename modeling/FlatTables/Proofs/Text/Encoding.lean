import FlatTables.Text.Encoding
import FlatTables.Proofs.Text.Lines

/-!
# Encoded text

Bytes are read as a text exactly if they are its encoding. The last byte of a text is a line feed
exactly if its last character is one, so a look at one byte tells whether a text ends its line.
-/

namespace FlatTables
namespace Text

/-- Bytes are read as a text exactly if they encode it. -/
theorem decode_eq_ok_iff
    (bytes : ByteArray)
    (text : String) :
    decode bytes = .ok text ↔ bytes = text.toUTF8 := by
  unfold decode String.fromUTF8?
  by_cases valid : bytes.IsValidUTF8
  · simp only [dif_pos valid, Except.ok.injEq]
    rw [← String.toByteArray_inj]
    rfl
  · simp only [dif_neg valid, reduceCtorEq, false_iff]
    rintro rfl
    exact valid text.isValidUTF8

/-- The encoding of a text is read as this text to its end. -/
theorem decodeStream_toUTF8 (text : String) : decodeStream text.toUTF8 = ⟨text, none⟩ := by
  rw [decodeStream, (decode_eq_ok_iff _ _).2 rfl]

/-- The encodings of two texts in a row encode the texts in a row. -/
theorem toUTF8_append (text further : String) :
    (text ++ further).toUTF8 = text.toUTF8 ++ further.toUTF8 :=
  String.toByteArray_append

/-- The last byte of an encoded character is a line feed only in the encoding of a line feed. -/
theorem getLast?_utf8EncodeChar (c : Char) :
    ∃ byte, (String.utf8EncodeChar c).getLast? = some byte ∧ (byte = 0x0A ↔ c = '\n') := by
  have continuation : ∀ value : Nat, UInt8.ofNat (value % 64 + 128) ≠ 0x0A := by
    intro value equal
    have sameValue := congrArg UInt8.toNat equal
    simp only [UInt8.toNat_ofNat', UInt8.reduceToNat] at sameValue
    omega
  have notNewline : ¬ c.val.toNat ≤ 127 → c ≠ '\n' := by
    rintro large rfl
    exact large (by decide)
  unfold String.utf8EncodeChar
  by_cases ascii : c.val.toNat ≤ 127
  · refine ⟨UInt8.ofNat c.val.toNat, by simp only [if_pos ascii, List.getLast?_singleton], ?_⟩
    constructor
    · intro equal
      have sameValue := congrArg UInt8.toNat equal
      simp only [UInt8.toNat_ofNat', UInt8.reduceToNat] at sameValue
      apply Char.ext
      apply UInt32.toNat_inj.1
      change c.val.toNat = 10
      omega
    · rintro rfl
      decide
  · refine ⟨UInt8.ofNat (c.val.toNat % 64 + 128), ?_, ?_⟩
    · simp only [if_neg ascii]
      split
      · rfl
      · split <;> rfl
    · exact iff_of_false (continuation _) (notNewline ascii)

/-- The bytes of a text end with a line feed exactly if the text does; the empty text has neither
a last byte nor a last character. -/
theorem getLast?_toUTF8 (text : String) :
    (∀ byte ∈ text.toUTF8.data.toList.getLast?, byte = 0x0A) ↔ AtLineStart text.toList := by
  have bytes : text.toUTF8.data.toList = text.toList.flatMap String.utf8EncodeChar := by
    change text.toByteArray.data.toList = _
    rw [← String.utf8Encode_toList, List.utf8Encode, List.toList_data_toByteArray]
  rw [bytes, AtLineStart]
  rcases List.eq_nil_or_concat text.toList with empty | ⟨front, last, split⟩
  · simp [empty]
  · obtain ⟨byte, lastByte, newline⟩ := getLast?_utf8EncodeChar last
    rw [split, List.concat_eq_append, List.flatMap_append, List.flatMap_singleton,
      List.getLast?_append, lastByte, List.getLast?_concat]
    simpa using newline

end Text
end FlatTables
