import FlatTables.Proofs.Query.RoundTrip
import FlatTables.Proofs.Value

/-!
# Values in statements

An integer is written in a statement as its decimal digits, and a text in single quotes, with every
single quote of its own doubled. A name in double quotes is written in the same way. Whatever the
text holds, it stays inside its token, and the literal that is read from the token is the value
again.
-/

namespace FlatTables

open Query

/-- The decimal digits of an integer with its sign, as long as they are not too many. -/
def numeral (n : Int) : String :=
  String.ofList ((Decimal.integerText? n).getD [])

namespace Value

/-- The value can be written in a statement: it is a text, or an integer with not too many
digits. -/
def Spellable : Value → Prop
  | .integer n => (Decimal.digitsOf n.natAbs).length ≤ Decimal.maxIntegerDigits
  | .text _ => True
  | .real _ => False

/-- The text of a value in a statement. A text is put in single quotes, and its own are doubled. -/
def spelled : Value → String
  | .integer n => numeral n
  | .text s => String.ofList ('\'' :: (doubled '\'' s.toList ++ ['\'']))
  | .real x => String.ofList (Decimal.realText x)

/-- The token of a value in a statement. -/
def form : Value → TokenForm
  | .integer n => .number (numeral n)
  | .text s => .text s
  | .real x => .number (String.ofList (Decimal.realText x))

/-- The literal of a statement that a value is read from. -/
def literal : Value → String
  | .integer n => numeral n
  | .text s => "'" ++ s ++ "'"
  | .real x => String.ofList (Decimal.realText x)

theorem isLiteral (value : Value) : IsLiteral value.literal value.form := by
  cases value with
  | integer n => exact .number _
  | text s => exact .text s
  | real x => exact .number _

/-- The numeral of an integer with not too many digits is its text. -/
theorem Spellable.integerText?_eq
    {n : Int}
    (spellable : (Value.integer n).Spellable) :
    Decimal.integerText? n = some (numeral n).toList := by
  have short : (Decimal.digitsOf n.natAbs).length ≤ Decimal.maxIntegerDigits := spellable
  simp [numeral, Decimal.integerText?, short]

end Value

/-- The text of an integer is a number: digits with an optional minus. -/
theorem isNumber_of_integerText?
    {n : Int}
    {digits : List Char}
    (written : Decimal.integerText? n = some digits) :
    IsNumber digits := by
  have ascii := Decimal.isAsciiDigits_digitsOf n.natAbs
  have nonempty := Decimal.digitsOf_ne_nil n.natAbs
  simp only [Decimal.integerText?] at written
  split at written
  · cases written
    split
    · simpa using IsNumber.intro .minus ascii nonempty .absent .absent
    · simpa using IsNumber.intro .absent ascii nonempty .absent .absent
  · cases written

/-- A value is spelled as its token. -/
theorem Value.Spellable.spells
    {value : Value}
    (spellable : value.Spellable) :
    Spells value.form value.spelled.toList := by
  cases value with
  | integer n =>
      exact .number (isNumber_of_integerText? spellable.integerText?_eq)
  | text s => simpa [form, spelled] using Spells.text s
  | real x => exact spellable.elim

/-! ## Literals read back -/

/-- The literal of a value is read as the value. -/
theorem Value.Spellable.coerce_literal
    {value : Value}
    (spellable : value.Spellable) :
    Literal.coerce value.type value.literal = .ok value := by
  rw [Literal.coerce_eq_ok_iff]
  cases value with
  | integer n =>
      have written := spellable.integerText?_eq
      have number := (Decimal.isNumberChar_integerText? written).2
      have clean : ∀ c ∈ (numeral n).toList, Text.isBlank c = false :=
        fun c member => isBlank_of_isNumberChar (number c member)
      have unquoted : (numeral n).toList.head? ≠ some '\'' := by
        intro first
        rcases number '\'' (List.mem_of_mem_head? first) with digit | member
        · exact absurd digit (by decide)
        · exact absurd member (by decide)
      simp only [literal, type, Literal.body, Text.trimChars_of_no_blank clean,
        Literal.stripQuotesChars_of_head unquoted, Literal.readAs?,
        Decimal.readInteger?_of_integerText? written, Option.map_some]
  | text s =>
      have literalEq : (Value.text s).literal.toList = '\'' :: (s.toList ++ ['\'']) := by
        simp [literal]
      rw [literalEq, type, Literal.body, Literal.stripQuotesChars_of_quoted]
      simp [Literal.readAs?]
  | real x => exact spellable.elim

/-- The literals of a conforming row are read as the row. -/
theorem coerceAll_literal
    {attributes : List Attribute}
    {row : Row}
    (conforms : row.map Value.type = attributes.map Attribute.type)
    (spellable : ∀ value ∈ row, value.Spellable) :
    Literal.coerceAll attributes (row.map Value.literal) = .ok row := by
  induction attributes generalizing row with
  | nil =>
      obtain rfl := List.map_eq_nil_iff.1 conforms
      rfl
  | cons attr rest inductionHypothesis =>
      obtain ⟨value, values, rfl, valueType, others⟩ := List.map_eq_cons_iff.1 conforms
      rw [List.forall_mem_cons] at spellable
      simp only [List.map_cons, Literal.coerceAll, ← valueType, spellable.1.coerce_literal,
        inductionHypothesis others spellable.2]
      rfl

namespace Query

/-! ## Texts of statements -/

/-- The tokens of the insertion of a row. -/
def insertionForms (table : String) (names : List String) (row : Row) : List TokenForm :=
  .keyword .insert :: .keyword .into :: .name table :: .open :: commaList (names.map .name) ++
    .close :: .keyword .values :: .open :: commaList (row.map Value.form) ++ [.close]

/-- The tokens of the query for the rows that have some text in a column. -/
def textQueryForms (table column content : String) : List TokenForm :=
  [.keyword .select, .star, .keyword .from, .name table, .keyword .where, .name column,
    .operator .equal, .text content]

/-- The text spells the name, as a plain word or in double quotes. -/
def SpellsName (name word : String) : Prop :=
  Spells (.name name) word.toList

/-- The name in double quotes, with its own doubled. -/
def quotedName (name : String) : String :=
  String.ofList ('"' :: (doubled '"' name.toList ++ ['"']))

/-- Every name can be written in double quotes. -/
theorem spellsName_quotedName (name : String) : SpellsName name (quotedName name) := by
  simpa [SpellsName, quotedName] using Spells.quotedName name

/-- However the tokens of an insertion are laid out, it is read with the literals of its row. -/
theorem parse_of_insertion
    {table sql : String}
    {names : List String}
    {row : Row}
    (namesNonempty : names ≠ [])
    (rowNonempty : row ≠ [])
    (layout : Layout (insertionForms table names row) sql.toList) :
    Statement.parse sql = .ok (.insert table names (row.map Value.literal)) := by
  obtain ⟨first, others, rfl⟩ := List.exists_cons_of_ne_nil namesNonempty
  have areLiterals : List.Forall₂ IsLiteral (row.map Value.literal) (row.map Value.form) := by
    rw [List.forall₂_map_left_iff, List.forall₂_map_right_iff, List.forall₂_same]
    exact fun value _ => value.isLiteral
  have derives := Derives.insert table first others (by simpa using rowNonempty) areLiterals
  exact (Sentence.plain derives).parse_eq_ok layout

/-- However the tokens of a query for a text are laid out, it is read with the text in quotes. -/
theorem parse_of_textQuery
    {table column content sql : String}
    (layout : Layout (textQueryForms table column content) sql.toList) :
    Statement.parse sql =
      .ok (.select .all table (some ⟨column, .equal, (Value.text content).literal⟩)) := by
  have derives := Derives.select table .all
    (.present column .equal (.literal (Value.text content).isLiteral))
  exact (Sentence.plain derives).parse_eq_ok layout

theorem toList_insertText
    (table : String)
    (names values : List String) :
    (Statement.insert table names values).text.toList =
      Keyword.insert.text.toList ++ ' ' :: (Keyword.into.text.toList ++ ' ' ::
        (table.toList ++ ' ' :: ('(' :: ([',', ' '].intercalate (names.map String.toList) ++
          (')' :: ' ' :: (Keyword.values.text.toList ++ ' ' :: ('(' ::
            ([',', ' '].intercalate (values.map String.toList) ++ [')'])))))))) := by
  have textEq : (Statement.insert table names values).text =
      "INSERT INTO " ++ table ++ " (" ++ Statement.listText names ++ ") VALUES (" ++
        Statement.listText values ++ ")" := rfl
  simp [textEq, toList_listText, Keyword.text]

theorem toList_selectText
    (table : String)
    (condition : Condition) :
    (Statement.select .all table (some condition)).text.toList =
      Keyword.select.text.toList ++ ' ' :: ('*' :: ' ' :: (Keyword.from.text.toList ++ ' ' ::
        (table.toList ++ ' ' :: (Keyword.where.text.toList ++ ' ' ::
          (condition.column.toList ++ ' ' :: (condition.op.symbol.toList ++ ' ' ::
            (condition.literal.toList ++ []))))))) := by
  have textEq : (Statement.select .all table (some condition)).text =
      "SELECT " ++ "*" ++ " FROM " ++ table ++
        (" WHERE " ++
          (condition.column ++ " " ++ condition.op.symbol ++ " " ++ condition.literal)) := rfl
  simp [textEq, Keyword.text]

/-- The usual text of an insertion is a layout of its tokens. -/
theorem layout_insertionText
    {table tableWord : String}
    (spellsTable : SpellsName table tableWord)
    {names nameWords : List String}
    (spellNames : List.Forall₂ SpellsName names nameWords)
    (namesNonempty : names ≠ [])
    {row : Row}
    (spellable : ∀ value ∈ row, value.Spellable)
    (rowNonempty : row ≠ []) :
    Layout (insertionForms table names row)
      (Statement.insert tableWord nameWords (row.map Value.spelled)).text.toList := by
  have last : Layout [.close] ([')'] ++ []) := .token .close (.inl rfl) .nil
  have spellValues : List.Forall₂ Spells (row.map Value.form)
      ((row.map Value.spelled).map String.toList) := by
    rw [List.map_map, List.forall₂_map_left_iff, List.forall₂_map_right_iff, List.forall₂_same]
    exact fun value member => (spellable value member).spells
  have fromValue := last.list spellValues (by simpa using rowNonempty)
    (endsToken_of_head (.inr (by decide)) _)
  have fromOpen := Layout.token .open (.inl rfl) fromValue
  have fromValues := Layout.blank (c := ' ') (by decide) (fromOpen.spaced (spells_keyword .values))
  have fromClose := Layout.token .close (.inl rfl) fromValues
  have spellColumns : List.Forall₂ Spells (names.map .name) (nameWords.map String.toList) := by
    rwa [List.forall₂_map_left_iff, List.forall₂_map_right_iff]
  have wordsNonempty : nameWords.map String.toList ≠ [] := by
    rintro noWords
    obtain rfl := List.map_eq_nil_iff.1 noWords
    exact namesNonempty (List.forall₂_nil_right_iff.1 spellNames)
  have fromName := fromClose.list spellColumns wordsNonempty
    (endsToken_of_head (.inr (by decide)) _)
  have fromNames := Layout.token .open (.inl rfl) fromName
  have fromTable := fromNames.spaced spellsTable
  have whole := (fromTable.spaced (spells_keyword .into)).spaced (spells_keyword .insert)
  have formsEq : insertionForms table names row =
      .keyword .insert :: .keyword .into :: .name table :: .open :: (commaList (names.map .name) ++
        .close :: .keyword .values :: .open :: (commaList (row.map Value.form) ++ [.close])) := by
    simp [insertionForms]
  rw [formsEq, toList_insertText]
  exact whole

/-- The usual text of a query for a text is a layout of its tokens. -/
theorem layout_textQueryText
    {table tableWord column columnWord : String}
    (spellsTable : SpellsName table tableWord)
    (spellsColumn : SpellsName column columnWord)
    (content : String) :
    Layout (textQueryForms table column content)
      (Statement.select .all tableWord
        (some ⟨columnWord, .equal, (Value.text content).spelled⟩)).text.toList := by
  have spellable : (Value.text content).Spellable := trivial
  have fromText := Layout.token spellable.spells (.inr endsToken_nil) .nil
  have fromColumn := (fromText.spaced (.operator .equal)).spaced spellsColumn
  have fromTable := (fromColumn.spaced (spells_keyword .where)).spaced spellsTable
  have whole := ((fromTable.spaced (spells_keyword .from)).spaced .star).spaced
    (spells_keyword .select)
  rw [toList_selectText]
  exact whole

end Query
end FlatTables
