import FlatTables.Literal
import FlatTables.Proofs.Schema

/-!
# Literals

A literal is read as a value of the type asked for, and the literals of an insertion as a row
that conforms. The check that precedes an insertion passes exactly the rows without separators
and line breaks that are not a single blank text.
-/

namespace FlatTables

/-! ## Quotes -/

theorem Literal.stripQuotesChars_of_quoted (content : List Char) :
    stripQuotesChars ('\'' :: (content ++ ['\''])) = content := by
  simp [stripQuotesChars]

/-- A text that does not start with a quote has none to lose. -/
theorem Literal.stripQuotesChars_of_head
    {literal : List Char}
    (unquoted : literal.head? ≠ some '\'') :
    stripQuotesChars literal = literal := by
  unfold stripQuotesChars
  split
  · exact absurd rfl unquoted
  · rfl

/-- A text keeps its quotes unless it has one at either end. -/
theorem Literal.stripQuotesChars_cases (literal : List Char) :
    stripQuotesChars literal = literal ∨
      literal = '\'' :: (stripQuotesChars literal ++ ['\'']) := by
  unfold stripQuotesChars
  split
  · rename_i rest
    split
    · rename_i last
      obtain ⟨content, rfl⟩ := List.getLast?_eq_some_iff.1 last
      exact .inr (by simp)
    · exact .inl rfl
  · exact .inl rfl

/-! ## Values of literals -/

theorem Literal.readAs?_type
    {type : AttributeType}
    {text : List Char}
    {value : Value}
    (read : readAs? type text = some value) :
    value.type = type := by
  cases type with
  | integer =>
      obtain ⟨n, _, rfl⟩ := Option.map_eq_some_iff.1 read
      rfl
  | text =>
      cases read
      rfl
  | real =>
      obtain ⟨x, _, rfl⟩ := Option.map_eq_some_iff.1 read
      rfl

theorem Literal.coerce_eq_ok_iff
    (type : AttributeType)
    (literal : String)
    (value : Value) :
    coerce type literal = .ok value ↔ readAs? type (body type literal.toList) = some value := by
  unfold coerce
  cases readAs? type (body type literal.toList) <;> simp

/-- A literal that is read as no value is rejected as it was written. -/
theorem Literal.coerce_eq_error_iff
    (type : AttributeType)
    (literal : String)
    (rejection : Rejection) :
    coerce type literal = .error rejection ↔
      (∀ value, coerce type literal ≠ .ok value) ∧
        rejection = .invalidLiteral literal type none := by
  unfold coerce
  cases readAs? type (body type literal.toList) <;> simp [eq_comm]

/-- Every literal is read as a text, without its quotes. -/
theorem Literal.coerce_text_eq_ok (literal : String) :
    coerce .text literal = .ok (.text (stripQuotes literal)) :=
  rfl

/-- A literal is read as a value of the type asked for. -/
theorem Literal.coerce_type
    {type : AttributeType}
    {literal : String}
    {value : Value}
    (read : coerce type literal = .ok value) :
    value.type = type :=
  readAs?_type ((coerce_eq_ok_iff ..).1 read)

/-- Literals of as many attributes are read as a row with the attributes' types. -/
theorem Literal.coerceAll_types
    {attributes : List Attribute}
    {literals : List String}
    {row : Row}
    (sameLength : attributes.length = literals.length)
    (read : coerceAll attributes literals = .ok row) :
    row.map Value.type = attributes.map Attribute.type := by
  induction attributes generalizing literals row with
  | nil =>
      cases read
      rfl
  | cons attr rest inductionHypothesis =>
      cases literals with
      | nil => cases sameLength
      | cons literal literals =>
          cases first : coerce attr.type literal with
          | error rejection => simp [coerceAll, first] at read
          | ok value =>
              simp only [coerceAll, first, map_eq_ok_iff] at read
              obtain ⟨values, others, rfl⟩ := read
              rw [List.map_cons, List.map_cons, coerce_type first,
                inductionHypothesis (by simpa using sameLength) others]

/-- The values that literals are read as under attributes. -/
def Literal.Reads (attributes : List Attribute) (literals : List String) (row : Row) : Prop :=
  List.Forall₂ (fun pair value => coerce pair.1.type pair.2 = .ok value) (attributes.zip literals)
    row

/-- Literals are read one by one, each under its attribute. -/
theorem Literal.coerceAll_eq_mapM
    (attributes : List Attribute)
    (literals : List String) :
    coerceAll attributes literals =
      (attributes.zip literals).mapM fun pair => coerce pair.1.type pair.2 := by
  induction attributes generalizing literals with
  | nil => rfl
  | cons attr rest inductionHypothesis =>
      cases literals with
      | nil => rfl
      | cons literal literals =>
          rw [List.zip_cons_cons, List.mapM_cons, ← inductionHypothesis, coerceAll]
          cases coerce attr.type literal <;> rfl

theorem Literal.coerceAll_eq_ok_iff
    (attributes : List Attribute)
    (literals : List String)
    (row : Row) :
    coerceAll attributes literals = .ok row ↔ Reads attributes literals row := by
  rw [coerceAll_eq_mapM, mapM_eq_ok_iff, Reads]

/-- The first literal that is read as no value of its attribute's type is rejected as it was
written. -/
theorem Literal.coerceAll_eq_error_iff
    (attributes : List Attribute)
    (literals : List String)
    (rejection : Rejection) :
    coerceAll attributes literals = .error rejection ↔
      ∃ pair, Reached (fun pair => ∃ value, coerce pair.1.type pair.2 = .ok value)
          (attributes.zip literals) pair ∧
        (∀ value, coerce pair.1.type pair.2 ≠ .ok value) ∧
          rejection = .invalidLiteral pair.2 pair.1.type none := by
  simp only [coerceAll_eq_mapM, mapM_eq_error_iff, coerce_eq_error_iff]

/-! ## Storable rows -/

/-- No text of the row holds a separator or line break, and it is not a single blank text. -/
structure Row.Storable (row : Row) : Prop where
  unseparated : ∀ value ∈ row, Literal.holdsSeparator value = false
  notBlank : ∀ s, row = [.text s] → Text.isBlankText s = false

/-- The value is a text with a comma or a line break. -/
def Value.Separated (value : Value) : Prop :=
  ∃ s, value = .text s ∧ ∃ c ∈ s.toList, c = ',' ∨ c = '\n' ∨ c = '\r'

namespace Literal

theorem holdsSeparator_iff (value : Value) :
    holdsSeparator value = true ↔ value.Separated := by
  cases value <;>
    simp [holdsSeparator, Value.Separated, isUnstorable, fieldSeparator, or_assoc]

/-- The first literal of a value with a comma or a line break is found. -/
theorem firstSeparated?_eq_some_iff
    (values : List Value)
    (literals : List String)
    (literal : String) :
    firstSeparated? values literals = some literal ↔
      ∃ pair, Reached (fun pair => ¬ pair.1.Separated) (values.zip literals) pair ∧
        pair.1.Separated ∧ literal = pair.2 := by
  induction values generalizing literals with
  | nil => simp [firstSeparated?]
  | cons value rest inductionHypothesis =>
      cases literals with
      | nil => simp [firstSeparated?]
      | cons first others =>
          rw [List.zip_cons_cons, exists_reached_cons_iff, ← inductionHypothesis,
            ← holdsSeparator_iff]
          cases separated : holdsSeparator value <;> simp [firstSeparated?, separated, eq_comm]

theorem firstSeparated?_eq_none_iff
    {values : List Value}
    {literals : List String}
    (enough : values.length ≤ literals.length) :
    firstSeparated? values literals = none ↔
      ∀ value ∈ values, holdsSeparator value = false := by
  induction values generalizing literals with
  | nil => simp [firstSeparated?]
  | cons value rest inductionHypothesis =>
      cases literals with
      | nil => cases enough
      | cons literal literals =>
          have others := @inductionHypothesis literals (by simpa using enough)
          cases separated : holdsSeparator value <;> simp [firstSeparated?, separated, others]

/-- Rows that pass the check are storable. -/
theorem storable_of_ensureStorable
    {row : Row}
    {literals : List String}
    (enough : row.length ≤ literals.length)
    (passed : ensureStorable row literals = .ok ()) :
    row.Storable := by
  unfold ensureStorable at passed
  cases separated : firstSeparated? row literals with
  | some literal => simp [separated] at passed
  | none =>
      refine ⟨(firstSeparated?_eq_none_iff enough).1 separated, ?_⟩
      rintro s rfl
      cases blank : Text.isBlankText s with
      | false => rfl
      | true =>
          cases literals with
          | nil => cases enough
          | cons literal rest => simp [separated, blank] at passed

/-- A row with its literals does not pass exactly if one of its texts cannot be kept in a line, or
if its only value is a blank text. -/
theorem ensureStorable_eq_error_iff
    {row : Row}
    {literals : List String}
    (sameLength : row.length = literals.length)
    (fault : StorableFault) :
    ensureStorable row literals = .error fault ↔
      (∃ literal, firstSeparated? row literals = some literal ∧
          fault = .rejected (.invalidLiteral literal .text (some .separator))) ∨
        ∃ s literal, row = [.text s] ∧ literals = [literal] ∧ holdsSeparator (.text s) = false ∧
          Text.isBlankText s = true ∧
            fault = .rejected (.invalidLiteral literal .text (some .blankRow)) := by
  unfold ensureStorable
  cases first : firstSeparated? row literals with
  | some literal =>
      have separated : ∀ s own, row = [.text s] → literals = [own] →
          holdsSeparator (.text s) = true := by
        rintro s own rfl rfl
        by_contra kept
        simp [firstSeparated?, kept] at first
      constructor
      · intro failed
        exact .inl ⟨literal, rfl, (Except.error.inj failed).symm⟩
      · rintro (⟨own, same, rfl⟩ | ⟨s, own, sole, soleLiteral, kept, _⟩)
        · rw [Option.some.inj same]
        · rw [separated s own sole soleLiteral] at kept
          cases kept
  | none =>
      have kept := (firstSeparated?_eq_none_iff (Nat.le_of_eq sameLength)).1 first
      simp only [reduceCtorEq, false_and, exists_false, false_or]
      constructor
      · intro failed
        split at failed
        · split at failed
          · rename_i s blank
            cases literals with
            | nil => cases sameLength
            | cons literal rest =>
                obtain rfl : rest = [] := by simpa using sameLength
                exact ⟨s, literal, rfl, rfl, kept _ List.mem_cons_self, blank,
                  (Except.error.inj failed).symm⟩
          · cases failed
        · cases failed
      · rintro ⟨s, literal, rfl, rfl, _, blank, rfl⟩
        simp [blank]

/-- The check fails by a rejection only, if every value has its literal. -/
theorem rejected_of_ensureStorable
    {row : Row}
    {literals : List String}
    {fault : StorableFault}
    (sameLength : row.length = literals.length)
    (failed : ensureStorable row literals = .error fault) :
    ∃ rejection, fault = .rejected rejection := by
  rcases (ensureStorable_eq_error_iff sameLength fault).1 failed with
    ⟨_, _, _, rfl⟩ | ⟨_, _, _, _, _, _, rfl⟩ <;> exact ⟨_, rfl⟩

end Literal
end FlatTables
