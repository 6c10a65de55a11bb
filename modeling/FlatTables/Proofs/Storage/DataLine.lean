import FlatTables.Proofs.Value
import FlatTables.Storage.DataFile
import Mathlib.Data.List.Forall2

/-!
# Lines of data files

A line is read as at most one row, and which row that is depends neither on the file nor on the
line's number. A row that was read has trimmed texts and can be written again. The line written for
a row is read as that row with its texts trimmed, provided that its real numbers are finite.
-/

namespace FlatTables
namespace Storage
namespace DataFile

/-! ## Lines that are read -/

/-- A line is read as a row. -/
structure Reads (schema : Schema) (line : List Char) (row : Row) : Prop where
  arity_eq : (Text.splitFields Literal.fieldSeparator line).length = schema.arity
  fields_eq : readFields schema.attributes (Text.splitFields Literal.fieldSeparator line) = .ok row

theorem readLine_eq_ok_iff
    (path : Path)
    (schema : Schema)
    (number : Nat)
    (line : List Char)
    (row : Row) :
    readLine path schema number line = .ok row ↔ Reads schema line row := by
  unfold readLine
  by_cases arityEq : (Text.splitFields Literal.fieldSeparator line).length = schema.arity
  · simp only [arityEq, ne_eq, not_true_eq_false, if_false, mapError_eq_ok_iff]
    exact ⟨fun read => ⟨arityEq, read⟩, Reads.fields_eq⟩
  · simp only [arityEq, ne_eq, not_false_eq_true, if_true, reduceCtorEq, false_iff]
    exact fun reads => arityEq reads.arity_eq

/-- A line is read as one row only. -/
theorem Reads.unique
    {schema : Schema}
    {line : List Char}
    {first second : Row}
    (readsFirst : Reads schema line first)
    (readsSecond : Reads schema line second) :
    first = second :=
  Except.ok.inj (readsFirst.fields_eq.symm.trans readsSecond.fields_eq)

/-- What fields are read as: values of the attributes' types that can be written again, with
trimmed texts made of characters of the fields. -/
theorem readFields_eq_ok
    {attributes : List Attribute}
    {fields : List (List Char)}
    {row : Row}
    (sameLength : fields.length = attributes.length)
    (read : readFields attributes fields = .ok row) :
    row.map Value.type = attributes.map Attribute.type ∧ row.Writable ∧ row.trimmed = row ∧
      ∀ s, Value.text s ∈ row → ∃ field ∈ fields, s.toList = Text.trimChars field := by
  induction attributes generalizing fields row with
  | nil =>
      cases read
      refine ⟨rfl, ?_, rfl, by simp⟩
      intro value member
      cases member
  | cons attr rest inductionHypothesis =>
      cases fields with
      | nil => cases sameLength
      | cons field fields =>
          unfold readFields at read
          cases first : Literal.readField attr.type
              (String.ofList (Text.trimChars field)) with
          | error rejection => simp [first] at read
          | ok value =>
              simp only [first, map_eq_ok_iff] at read
              obtain ⟨values, others, rfl⟩ := read
              obtain ⟨types, writable, trimmed, texts⟩ :=
                inductionHypothesis (by simpa using sameLength) others
              have readAs := (readField_eq_ok_iff ..).1 first
              rw [String.toList_ofList] at readAs
              have ownText : ∀ s, value = .text s → s.toList = Text.trimChars field := by
                rintro s rfl
                rw [← Literal.readAs?_type readAs] at readAs
                cases readAs
                rw [String.toList_ofList]
              refine ⟨?_, ?_, ?_, ?_⟩
              · rw [List.map_cons, List.map_cons, Literal.readAs?_type readAs, types]
              · intro other member
                rcases List.mem_cons.1 member with rfl | inRest
                · exact writable_of_readAs? readAs
                · exact writable other inRest
              · have ownTrimmed : value.trimmed = value := by
                  cases value with
                  | text s =>
                      apply Value.trimmed_text
                      rw [ownText s rfl, Text.trimChars_trimChars]
                  | integer n => rfl
                  | real x => rfl
                rw [Row.trimmed, List.map_cons, ownTrimmed]
                exact congrArg (value :: ·) trimmed
              · intro s member
                rcases List.mem_cons.1 member with here | inRest
                · exact ⟨field, by simp, ownText s here.symm⟩
                · obtain ⟨own, ownMember, equal⟩ := texts s inRest
                  exact ⟨own, List.mem_cons_of_mem _ ownMember, equal⟩

section
variable
  {schema : Schema}
  {line : List Char}
  {row : Row}
  (reads : Reads schema line row)
include reads

theorem Reads.conforms : row.Conforms schema :=
  (readFields_eq_ok reads.arity_eq reads.fields_eq).1

theorem Reads.writable : row.Writable :=
  (readFields_eq_ok reads.arity_eq reads.fields_eq).2.1

theorem Reads.trimmed_eq : row.trimmed = row :=
  (readFields_eq_ok reads.arity_eq reads.fields_eq).2.2.1

/-- The row of a line without breaks that is not blank is storable. -/
theorem Reads.storable
    (within : ∀ c ∈ line, Text.isNewline c = false)
    (notBlank : line.all Text.isBlank = false) :
    row.Storable := by
  have texts := (readFields_eq_ok reads.arity_eq reads.fields_eq).2.2.2
  constructor
  · intro value member
    cases value with
    | text s =>
        obtain ⟨field, inLine, equal⟩ := texts s member
        obtain ⟨unseparated, fromLine⟩ := Text.mem_splitFields inLine
        refine List.any_eq_false.2 fun c inText => ?_
        have inField : c ∈ field := Text.mem_of_mem_trimChars (equal ▸ inText)
        have noBreak := within c (fromLine c inField)
        have noSeparator : c ≠ Literal.fieldSeparator := by
          rintro rfl
          exact unseparated inField
        simp only [Text.isNewline, Bool.or_eq_false_iff] at noBreak
        simp [Literal.isUnstorable, noSeparator, noBreak]
    | integer n => rfl
    | real x => rfl
  · rintro s rfl
    obtain ⟨field, inLine, equal⟩ := texts s (by simp)
    -- There is only one field, which is the line itself.
    have sole : Text.splitFields Literal.fieldSeparator line = [field] := by
      have arity : (Text.splitFields Literal.fieldSeparator line).length = 1 := by
        rw [reads.arity_eq]
        simpa [Schema.arity] using reads.conforms.length_eq.symm
      obtain ⟨only, split⟩ := List.length_eq_one_iff.1 arity
      rw [split, List.mem_singleton] at inLine
      rw [split, inLine]
    have joined := Text.intercalate_splitFields Literal.fieldSeparator line
    rw [sole, List.intercalate_singleton] at joined
    rw [Text.isBlankText, equal, ← Bool.not_eq_true, ← Text.trimChars_eq_nil_iff,
      Text.trimChars_trimChars, Text.trimChars_eq_nil_iff, joined, notBlank]
    exact Bool.false_ne_true

end

/-! ## Lines that are written -/

private theorem forall₂_of_mapM
    {row : Row}
    {fields : List String}
    (formatted : row.mapM Value.format? = some fields) :
    List.Forall₂ (fun value field => value.format? = some field) row fields := by
  induction row generalizing fields with
  | nil =>
      cases formatted
      exact .nil
  | cons value rest inductionHypothesis =>
      simp only [List.mapM_cons, Option.bind_eq_bind, Option.bind_eq_some_iff, Option.pure_def,
        Option.some.injEq] at formatted
      obtain ⟨field, here, others, there, rfl⟩ := formatted
      exact .cons here (inductionHypothesis there)

/-- A row that can be written has a text for every value. -/
theorem mapM_of_writable
    {row : Row}
    (writable : row.Writable) :
    ∃ fields, row.mapM Value.format? = some fields :=
  exists_mapM_eq_some writable

/-- Written fields are read as the row with its texts trimmed, exactly if the row is finite. -/
theorem readFields_of_format?
    {attributes : List Attribute}
    {row : Row}
    {fields : List String}
    (types : row.map Value.type = attributes.map Attribute.type)
    (formatted : List.Forall₂ (fun value field => value.format? = some field) row fields)
    (read : Row) :
    readFields attributes (fields.map String.toList) = .ok read ↔
      row.Finite ∧ read = row.trimmed := by
  induction formatted generalizing attributes read with
  | nil =>
      obtain rfl := List.map_eq_nil_iff.1 types.symm
      constructor
      · intro equal
        cases equal
        refine ⟨?_, rfl⟩
        intro value member
        cases member
      · rintro ⟨_, rfl⟩
        rfl
  | @cons value field values fields here there inductionHypothesis =>
      cases attributes with
      | nil => simp at types
      | cons attr rest =>
          simp only [List.map_cons, List.cons.injEq] at types
          obtain ⟨sameType, otherTypes⟩ := types
          have own := readField_of_format? here
          simp only [Text.trim] at own
          rw [sameType] at own
          unfold Row.Finite at inductionHypothesis ⊢
          simp only [List.map_cons, readFields, Row.trimmed, List.forall_mem_cons]
          cases first : Literal.readField attr.type
              (String.ofList (Text.trimChars field.toList)) with
          | error rejection =>
              have infinite : ¬ value.Finite := fun finite => by
                have := (own value.trimmed).2 ⟨finite, rfl⟩
                simp [first] at this
              simp [infinite]
          | ok value' =>
              obtain ⟨finite, rfl⟩ := (own value').1 first
              simp only [map_eq_ok_iff, finite, true_and]
              constructor
              · rintro ⟨others, readOthers, rfl⟩
                obtain ⟨othersFinite, rfl⟩ := (inductionHypothesis otherTypes others).1 readOthers
                exact ⟨othersFinite, rfl⟩
              · rintro ⟨othersFinite, rfl⟩
                exact ⟨_, (inductionHypothesis otherTypes _).2 ⟨othersFinite, rfl⟩, rfl⟩

/-- A row that is written has a text for every value, and no text needs an escape. Its line is
not blank. -/
theorem encode_eq_ok
    {row : Row}
    {text : String}
    (encoded : encode row = .ok text) :
    ∃ fields,
      List.Forall₂ (fun value field => value.format? = some field) row fields ∧
      (∀ field ∈ fields, ∀ c ∈ field.toList, Literal.isUnstorable c = false) ∧
      Text.isBlankText (String.intercalate "," fields) = false ∧
      text = String.intercalate "," fields ++ "\n" := by
  unfold encode at encoded
  cases formatted : row.mapM Value.format? with
  | none => simp [formatted] at encoded
  | some fields =>
      simp only [formatted] at encoded
      cases escape : fields.find? (·.toList.any Literal.isUnstorable) with
      | some field => simp [escape] at encoded
      | none =>
          simp only [escape] at encoded
          cases blank : Text.isBlankText (String.intercalate "," fields) with
          | true => simp [blank] at encoded
          | false =>
              simp only [blank, Bool.false_eq_true, if_false, Except.ok.injEq] at encoded
              refine ⟨fields, forall₂_of_mapM formatted, ?_, blank, encoded.symm⟩
              intro field member c inField
              have clean := List.find?_eq_none.1 escape field member
              simp only [List.any_eq_true, not_exists, not_and, Bool.not_eq_true] at clean
              exact clean c inField

/-- Whatever stands on the right of related lists is related to something on the left. -/
theorem exists_of_mem_right
    {related : α → β → Prop}
    {left : List α}
    {right : List β}
    (areRelated : List.Forall₂ related left right)
    {b : β}
    (member : b ∈ right) :
    ∃ a ∈ left, related a b := by
  induction areRelated with
  | nil => cases member
  | cons here there inductionHypothesis =>
      rcases List.mem_cons.1 member with rfl | later
      · exact ⟨_, List.mem_cons_self, here⟩
      · obtain ⟨a, inLeft, own⟩ := inductionHypothesis later
        exact ⟨a, List.mem_cons_of_mem _ inLeft, own⟩

private theorem exists_text_of_type
    {value : Value}
    (isText : value.type = .text) :
    ∃ s, value = .text s := by
  cases value with
  | text s => exact ⟨s, rfl⟩
  | integer n => cases isText
  | real x => cases isText

/-- The row can be written as a line. -/
def Encodable (row : Row) : Prop :=
  ∃ text, encode row = .ok text

section
variable {row : Row} {fields : List String}

/-- A field holds a separator or line break exactly if it is the field of a text that does. -/
theorem any_isUnstorable_iff
    {value : Value}
    {field : String}
    (formatted : value.format? = some field) :
    field.toList.any Literal.isUnstorable = true ↔ value.Separated := by
  by_cases isText : value.type = .text
  · obtain ⟨s, rfl⟩ := exists_text_of_type isText
    cases formatted
    exact Literal.holdsSeparator_iff (.text _)
  · refine iff_of_false (fun unstorable => ?_) ?_
    · obtain ⟨c, inField, own⟩ := List.any_eq_true.1 unstorable
      rw [isUnstorable_of_isNumberChar ((isNumberChar_of_format? formatted isText).2 c inField)]
        at own
      cases own
    · rintro ⟨_, rfl, _⟩
      exact isText rfl

/-- The first field that needs an escape is the first text that holds a separator or line break. -/
theorem find?_isUnstorable_eq_some_iff
    (written : List.Forall₂ (fun value field => value.format? = some field) row fields)
    (field : String) :
    fields.find? (·.toList.any Literal.isUnstorable) = some field ↔
      ∃ value, Reached (fun other => ¬ other.Separated) row value ∧
        value.Separated ∧ value = .text field := by
  induction written with
  | nil => simp
  | @cons value own _ _ here _ inductionHypothesis =>
      rw [exists_reached_cons_iff, ← inductionHypothesis, List.find?_cons]
      by_cases separated : value.Separated
      · rw [(any_isUnstorable_iff here).2 separated]
        obtain ⟨_, rfl, _⟩ := id separated
        cases here
        simp [separated]
      · rw [Bool.eq_false_iff.2 (mt (any_isUnstorable_iff here).1 separated)]
        simp [separated]

/-- A line is blank exactly if it has no fields, or the field of a blank text only. -/
theorem isBlankText_line_iff
    (written : List.Forall₂ (fun value field => value.format? = some field) row fields) :
    Text.isBlankText (String.intercalate "," fields) = true ↔
      row = [] ∨ ∃ s, row = [.text s] ∧ Text.isBlankText s = true := by
  cases written with
  | nil => simp [Text.isBlankText]
  | @cons value field values fields here there =>
      cases there with
      | nil =>
          rw [String.intercalate_singleton]
          by_cases isText : value.type = .text
          · obtain ⟨s, rfl⟩ := exists_text_of_type isText
            cases here
            simp
          · refine iff_of_false (fun blank => ?_) ?_
            · obtain ⟨notEmpty, number⟩ := isNumberChar_of_format? here isText
              obtain ⟨c, inField⟩ := List.exists_mem_of_ne_nil _ notEmpty
              have blankHere := List.all_eq_true.1 blank c inField
              rw [isBlank_of_isNumberChar (number c inField)] at blankHere
              cases blankHere
            · rintro (empty | ⟨s, sole, _⟩)
              · cases empty
              · obtain ⟨rfl, _⟩ := List.cons.inj sole
                exact isText rfl
      | cons next others =>
          refine iff_of_false (fun blank => ?_) (by simp)
          have comma := List.all_eq_true.1 blank ',' (by simp [String.toList_intercalate])
          exact absurd comma (by decide)

end

/-- Why a row has no line: the first text of it that holds a separator or line break, or else that
nothing but a blank text would stand in its line. -/
inductive Refuses (row : Row) : EncodingFault → Prop
  | needsEscape {s : String}
      (reached : Reached (fun other => ¬ other.Separated) row (.text s))
      (separated : (Value.text s).Separated) :
      Refuses row (.needsEscape s)
  | blank
      (unseparated : ∀ value ∈ row, ¬ value.Separated)
      (blank : row = [] ∨ ∃ s, row = [.text s] ∧ Text.isBlankText s = true) :
      Refuses row .blank

/-- A row whose values all have a text is written as a line, or refused for one of these reasons. -/
theorem encode_eq_error_iff
    {row : Row}
    (writable : row.Writable)
    (fault : EncodingFault) :
    encode row = .error fault ↔ Refuses row fault := by
  obtain ⟨fields, formatted⟩ := mapM_of_writable writable
  have written := forall₂_of_mapM formatted
  have escape := find?_isUnstorable_eq_some_iff written
  simp only [encode, formatted]
  cases found : fields.find? (·.toList.any Literal.isUnstorable) with
  | some field =>
      obtain ⟨value, reached, separated, rfl⟩ := (escape field).1 found
      constructor
      · rintro ⟨⟩
        exact .needsEscape reached separated
      · rintro (⟨reachedOther, separatedOther⟩ | ⟨unseparated, _⟩)
        · rw [(escape _).2 ⟨_, reachedOther, separatedOther, rfl⟩] at found
          rw [Option.some.inj found]
        · exact absurd separated (unseparated _ reached.mem)
  | none =>
      have unseparated : ∀ value ∈ row, ¬ value.Separated := by
        intro value member separated
        obtain ⟨field, inFields, here⟩ := exists_of_mem_right written.flip member
        exact List.find?_eq_none.1 found field inFields ((any_isUnstorable_iff here).2 separated)
      have blank := isBlankText_line_iff written
      cases isBlank : Text.isBlankText (String.intercalate "," fields) with
      | true =>
          constructor
          · rintro ⟨⟩
            exact .blank unseparated (blank.1 isBlank)
          · rintro (⟨reached, separated⟩ | _)
            · exact absurd separated (unseparated _ reached.mem)
            · rfl
      | false =>
          simp only [Bool.false_eq_true, if_false, reduceCtorEq, false_iff]
          rintro (⟨reached, separated⟩ | ⟨_, blankRow⟩)
          · exact absurd separated (unseparated _ reached.mem)
          · rw [blank.2 blankRow] at isBlank
            cases isBlank

/-- A storable row of values with texts has a line. -/
theorem encodable_of_storable
    {row : Row}
    (nonempty : row ≠ [])
    (writable : row.Writable)
    (storable : row.Storable) :
    Encodable row := by
  cases encoded : encode row with
  | ok line => exact ⟨line, encoded⟩
  | error fault =>
      rcases (encode_eq_error_iff writable fault).1 encoded with
        ⟨reached, separated⟩ | ⟨_, empty | ⟨s, sole, blank⟩⟩
      · have kept := storable.unseparated _ reached.mem
        rw [(Literal.holdsSeparator_iff _).2 separated] at kept
        cases kept
      · exact absurd empty nonempty
      · rw [storable.notBlank s sole] at blank
        cases blank

/-- The line of a row has no breaks and is not blank. It is read as the row with its texts trimmed
exactly if the row is finite, and as nothing else. -/
theorem reads_of_encode
    {schema : Schema}
    {row : Row}
    {text : String}
    (encoded : encode row = .ok text)
    (conforms : row.Conforms schema)
    (nonempty : row ≠ []) :
    ∃ line, text.toList = line ++ ['\n'] ∧
      (∀ c ∈ line, Text.isNewline c = false) ∧
      line.all Text.isBlank = false ∧
      ∀ read, Reads schema line read ↔ row.Finite ∧ read = row.trimmed := by
  obtain ⟨fields, written, clean, notBlank, rfl⟩ := encode_eq_ok encoded
  have lineEq : (String.intercalate "," fields).toList =
      List.intercalate [Literal.fieldSeparator] (fields.map String.toList) :=
    String.toList_intercalate
  have fieldsNonempty : fields.map String.toList ≠ [] := by
    cases written with
    | nil => exact absurd rfl nonempty
    | cons here there => simp
  have unseparated : ∀ field ∈ fields.map String.toList, Literal.fieldSeparator ∉ field := by
    intro field member inField
    obtain ⟨own, ownMember, rfl⟩ := List.mem_map.1 member
    have impossible := clean own ownMember _ inField
    simp [Literal.isUnstorable] at impossible
  have split := Text.splitFields_intercalate fieldsNonempty unseparated
  refine ⟨(String.intercalate "," fields).toList, String.toList_append, ?_, notBlank, ?_⟩
  · intro c member
    rw [lineEq] at member
    rcases Text.mem_intercalate member with inSeparator | ⟨field, inFields, inField⟩
    · rw [List.mem_singleton.1 inSeparator]
      decide
    · obtain ⟨own, ownMember, rfl⟩ := List.mem_map.1 inFields
      have storable := clean own ownMember c inField
      simp only [Literal.isUnstorable, Bool.or_eq_false_iff] at storable
      simp [Text.isNewline, storable]
  · intro read
    have lengths : (fields.map String.toList).length = schema.arity := by
      rw [List.length_map, ← written.length_eq]
      exact conforms.length_eq
    rw [← readFields_of_format? conforms written read, lineEq]
    constructor
    · intro reads
      exact split ▸ reads.fields_eq
    · intro readAll
      exact ⟨by rw [split, lengths], by rw [split, readAll]⟩

end DataFile
end Storage
end FlatTables
