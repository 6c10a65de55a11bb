import FlatTables.Proofs.Storage.ReadBack

/-!
# Rows that are admitted

A row is checked twice: before it is inserted, together with the literals of its values, and again
when it is written as a line. The first check looks at texts and their literals, the second at the
fields of the line whatever they come from. Unless an integer has too many digits, both admit the
same rows, and refuse a row for the same value and the same reason.
-/

namespace FlatTables
namespace Storage
namespace DataFile

open Literal (StorableFault ensureStorable)

/-- Two refusals of a row are the same: both are for the first text of it that holds a separator or
line break, or for the blank text that is its only value. The check before an insertion names the
literal of the text, and the check before writing the text itself. -/
inductive SameRefusal (row : Row) (literals : List String) : StorableFault → EncodingFault → Prop
  | separator {s literal : String}
      (reached : Reached (fun pair => ¬ pair.1.Separated) (row.zip literals) (.text s, literal))
      (separated : (Value.text s).Separated) :
      SameRefusal row literals (.rejected (.invalidLiteral literal .text (some .separator)))
        (.needsEscape s)
  | blank {s literal : String}
      (sole : row.zip literals = [(.text s, literal)])
      (unseparated : ¬ (Value.text s).Separated)
      (blank : Text.isBlankText s = true) :
      SameRefusal row literals (.rejected (.invalidLiteral literal .text (some .blankRow))) .blank

section
variable
  {row : Row}
  {literals : List String}
  (enough : row.length ≤ literals.length)
include enough

/-- A row that is refused before it is inserted would be refused the same way in writing. -/
theorem exists_sameRefusal
    (writable : row.Writable)
    {refusal : StorableFault}
    (refused : ensureStorable row literals = .error refusal) :
    ∃ fault, encode row = .error fault ∧ SameRefusal row literals refusal fault := by
  have ownRow : (row.zip literals).map Prod.fst = row := List.map_fst_zip enough
  simp only [encode_eq_error_iff writable]
  unfold ensureStorable at refused
  cases first : Literal.firstSeparated? row literals with
  | some own =>
      rw [first] at refused
      obtain ⟨⟨value, literal⟩, reached, separated, rfl⟩ :=
        (Literal.firstSeparated?_eq_some_iff ..).1 first
      obtain ⟨s, rfl, _⟩ := id separated
      obtain rfl := Except.error.inj refused
      have reachedValue := Reached.map (fun other => ¬ Value.Separated other) reached
      rw [ownRow] at reachedValue
      exact ⟨_, .needsEscape reachedValue separated, .separator reached separated⟩
  | none =>
      have unseparated : ∀ value ∈ row, ¬ value.Separated := fun value member =>
        mt (Literal.holdsSeparator_iff value).2 <| by
          simpa using (Literal.firstSeparated?_eq_none_iff enough).1 first value member
      rw [first] at refused
      dsimp only at refused
      split at refused
      · rename_i s
        split at refused
        · rename_i blank
          cases literals with
          | nil => cases enough
          | cons literal rest =>
              obtain rfl := Except.error.inj refused
              exact ⟨_, .blank unseparated (.inr ⟨s, rfl, blank⟩),
                .blank rfl (unseparated _ List.mem_cons_self) blank⟩
        · cases refused
      · cases refused

end

/-- Whatever its literals are, a row of a table whose integers are short enough is admitted before
it is inserted exactly if it can be written as a line, and a refusal is the same in both checks. Its
real numbers may be infinite or no numbers at all. -/
theorem ensureStorable_iff_encode
    {schema : Schema}
    (attributes : 1 ≤ schema.arity)
    {row : Row}
    (conforms : row.Conforms schema)
    (fewDigits : row.FewDigits)
    {literals : List String}
    (enough : row.length ≤ literals.length) :
    (ensureStorable row literals = .ok () ↔ ∃ line, encode row = .ok line) ∧
      ∀ refusal, ensureStorable row literals = .error refusal →
        ∃ fault, encode row = .error fault ∧ SameRefusal row literals refusal fault := by
  have refuses : ∀ refusal, ensureStorable row literals = .error refusal →
      ∃ fault, encode row = .error fault ∧ SameRefusal row literals refusal fault :=
    fun _ => exists_sameRefusal enough fewDigits.writable
  refine ⟨⟨fun admitted => ?_, ?_⟩, refuses⟩
  · have nonempty := conforms.ne_nil (List.ne_nil_of_length_pos attributes)
    exact encodable_of_storable nonempty fewDigits.writable
      (Literal.storable_of_ensureStorable enough admitted)
  · rintro ⟨line, encoded⟩
    cases checked : ensureStorable row literals with
    | ok => rfl
    | error refusal =>
        obtain ⟨fault, refused, _⟩ := refuses refusal checked
        rw [refused] at encoded
        cases encoded

/-- A table with a real number and a text in every row. -/
def labelledSchema : Schema :=
  ⟨[⟨"x", .real⟩, ⟨"t", .text⟩], by decide⟩

/-- A row with an infinity can be written. With a comma in its text it is refused, for the literal
of the text before it is inserted and for the text itself in writing. -/
theorem encode_infinite :
    (∃ line, encode [.real (.infinite true), .text "a b"] = .ok line) ∧
    ∃ fault, encode [.real (.infinite true), .text "a,b"] = .error fault ∧
      SameRefusal [.real (.infinite true), .text "a,b"] ["-1e999", "'a,b'"]
        (.rejected (.invalidLiteral "'a,b'" .text (some .separator))) fault := by
  have noInteger : ∀ s, Row.FewDigits [.real (.infinite true), .text s] := by
    intro s n member
    simp at member
  constructor
  · have conforms : Row.Conforms [.real (.infinite true), .text "a b"] labelledSchema := by decide
    exact (ensureStorable_iff_encode (by decide) conforms (noInteger _)
      (show 2 ≤ ["-1e999", "'a b'"].length by decide)).1.1 (by decide)
  · have conforms : Row.Conforms [.real (.infinite true), .text "a,b"] labelledSchema := by decide
    exact (ensureStorable_iff_encode (by decide) conforms (noInteger _)
      (show 2 ≤ ["-1e999", "'a,b'"].length by decide)).2 _ (by decide)

end DataFile
end Storage
end FlatTables
