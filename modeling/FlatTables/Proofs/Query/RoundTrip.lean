import FlatTables.Proofs.Query.Grammar
import FlatTables.Proofs.Query.Layout

/-!
# Written statements read back

A statement that is written token by token is read back, whatever the spelling of its tokens and
the blanks between them. The normal text of a statement is such a layout as long as its names are
plain words and its texts hold no single quote, because the normal text does not quote names and
does not double quotes.
-/

namespace FlatTables
namespace Query

open Text (isBlank)

/-! ## The order of a sentence -/

section
variable {forms : List TokenForm} (order : forms.IsChain MayFollow)
include order

/-- Behind a token that is neither a name nor a semicolon, anything may stand. -/
theorem isChain_cons_of_opens
    (form : TokenForm)
    (noName : form.isName = false)
    (noSemicolon : form ≠ .semicolon) :
    (form :: forms).IsChain MayFollow :=
  List.isChain_cons.2 ⟨fun _ _ _ => ⟨noName, noSemicolon⟩, order⟩

/-- Before a token that is no name, anything may stand. -/
theorem isChain_cons_of_head
    (noName : ∀ form, forms.head? = some form → form.isName = false)
    (form : TokenForm) :
    (form :: forms).IsChain MayFollow := by
  refine List.isChain_cons.2 ⟨fun next first isName => ?_, order⟩
  rw [noName next first] at isName
  cases isName

theorem isChain_commaList
    (noName : ∀ form, forms.head? = some form → form.isName = false)
    (items : List TokenForm) :
    (commaList items ++ forms).IsChain MayFollow := by
  cases items with
  | nil => exact order
  | cons first others =>
      induction others generalizing first with
      | nil => exact isChain_cons_of_head order noName first
      | cons item others inductionHypothesis =>
          have behind : (.comma :: item :: (others.flatMap ([.comma, ·]) ++ forms)).IsChain
              MayFollow :=
            isChain_cons_of_opens (inductionHypothesis item) .comma rfl (by simp)
          exact isChain_cons_of_head behind (by rintro _ ⟨⟩; rfl) first

theorem DerivesWhere.isChain
    {condition : Option Condition}
    {whereForms : List TokenForm}
    (derivesWhere : DerivesWhere condition whereForms)
    (noName : ∀ form, forms.head? = some form → form.isName = false)
    (table : String) :
    (.name table :: (whereForms ++ forms)).IsChain MayFollow := by
  cases derivesWhere with
  | absent => exact isChain_cons_of_head order noName _
  | present column op isOperand =>
      rename_i literal operand
      have behindName : (.operator op :: operand :: forms).IsChain MayFollow :=
        isChain_cons_of_opens (isChain_cons_of_head order noName operand) _ rfl (by simp)
      have behindWhere : (.name column :: .operator op :: operand :: forms).IsChain MayFollow :=
        isChain_cons_of_head behindName (by rintro _ ⟨⟩; rfl) _
      have behindTable := isChain_cons_of_opens behindWhere (.keyword .where) rfl (by simp)
      exact isChain_cons_of_head behindTable (by rintro _ ⟨⟩; rfl) _

theorem DerivesColumns.isChain
    {columns : Columns}
    {columnForms : List TokenForm}
    (derivesColumns : DerivesColumns columns columnForms)
    (noName : ∀ form, forms.head? = some form → form.isName = false) :
    (columnForms ++ forms).IsChain MayFollow := by
  cases derivesColumns with
  | all => exact isChain_cons_of_head order noName .star
  | listed first others => exact isChain_commaList order noName _

/-- The tokens of a statement stand in order. -/
theorem Derives.isChain
    {statement : Statement}
    {body : List TokenForm}
    (derives : Derives statement body)
    (noName : ∀ form, forms.head? = some form → form.isName = false) :
    (body ++ forms).IsChain MayFollow := by
  cases derives with
  | select table derivesColumns derivesWhere =>
      simp only [List.cons_append, List.append_assoc]
      have fromTable := isChain_cons_of_opens (derivesWhere.isChain order noName table)
        (.keyword .from) rfl (by simp)
      have fromColumns := derivesColumns.isChain fromTable (by rintro _ ⟨⟩; rfl)
      exact isChain_cons_of_opens fromColumns _ rfl (by simp)
  | insert table first others nonempty areLiterals =>
      rename_i literals literalForms
      simp only [List.cons_append, List.append_assoc, List.nil_append]
      have fromClose := isChain_cons_of_head order noName .close
      have fromLiterals := isChain_commaList fromClose (by rintro _ ⟨⟩; rfl) literalForms
      have fromOpen := isChain_cons_of_opens fromLiterals .open rfl (by simp)
      have fromValues := isChain_cons_of_opens fromOpen (.keyword .values) rfl (by simp)
      have fromMiddle := isChain_cons_of_opens fromValues .close rfl (by simp)
      have fromNames := isChain_commaList fromMiddle (by rintro _ ⟨⟩; rfl)
        ((first :: others).map .name)
      have fromFirst := isChain_cons_of_opens fromNames .open rfl (by simp)
      have fromTable := isChain_cons_of_head fromFirst (by rintro _ ⟨⟩; rfl) (.name table)
      have fromInto := isChain_cons_of_opens fromTable (.keyword .into) rfl (by simp)
      exact isChain_cons_of_opens fromInto _ rfl (by simp)
  | delete table derivesWhere =>
      have fromFrom := isChain_cons_of_opens (derivesWhere.isChain order noName table)
        (.keyword .from) rfl (by simp)
      exact isChain_cons_of_opens fromFrom _ rfl (by simp)

end

/-- The tokens of a sentence stand in order, and the first one is a reserved word. -/
theorem Sentence.isChain
    {statement : Statement}
    {forms : List TokenForm}
    (sentence : Sentence statement forms) :
    forms.IsChain MayFollow ∧ ∃ keyword rest, forms = .keyword keyword :: rest := by
  have reserved : ∀ {body}, Derives statement body → ∃ keyword rest,
      body = .keyword keyword :: rest := by
    rintro body (_ | _ | _)
    all_goals exact ⟨_, _, rfl⟩
  cases sentence with
  | plain derives =>
      refine ⟨?_, reserved derives⟩
      simpa using derives.isChain List.isChain_nil (by simp)
  | closed derives =>
      obtain ⟨keyword, rest, rfl⟩ := reserved derives
      exact ⟨derives.isChain (List.isChain_singleton _) (by rintro _ ⟨⟩; rfl), keyword, _, rfl⟩

/-! ## Reading a layout -/

/-- A layout of a token is not blank. -/
theorem Layout.all_isBlank_eq_false
    {forms : List TokenForm}
    {text : List Char}
    (layout : Layout forms text)
    (nonempty : forms ≠ []) :
    text.all isBlank = false := by
  induction layout with
  | nil => exact absurd rfl nonempty
  | blank blank layout inductionHypothesis =>
      rw [List.all_cons, inductionHypothesis nonempty, Bool.and_false]
  | token spells ends layout inductionHypothesis =>
      obtain ⟨c, tail, rfl, notBlank⟩ := spells.exists_cons
      rw [List.cons_append, List.all_cons, notBlank, Bool.false_and]

/-- A layout of a sentence is read as its statement. -/
theorem Sentence.parse_eq_ok
    {statement : Statement}
    {forms : List TokenForm}
    (sentence : Sentence statement forms)
    {sql : String}
    (layout : Layout forms sql.toList) :
    Statement.parse sql = .ok statement := by
  obtain ⟨order, keyword, rest, rfl⟩ := sentence.isChain
  have notBlank : Text.isBlankText sql = false := layout.all_isBlank_eq_false (by simp)
  obtain ⟨tokens, tokenized, shape⟩ := layout.tokenize_eq_ok order (by rintro _ ⟨⟩; rfl)
  simp only [Statement.parse, notBlank, tokenized]
  exact Parser.ofTokens_of_sentence sql.toList sentence shape

/-! ## Normal texts -/

/-- A literal that is written as it is: a text without single quotes, or a number. -/
inductive IsPlainLiteral : String → Prop
  | text {content : String} (noQuote : '\'' ∉ content.toList) :
      IsPlainLiteral ("'" ++ content ++ "'")
  | number {digits : String} (isNumber : IsNumber digits.toList) : IsPlainLiteral digits

/-- The right side of a condition that is written as it is. -/
inductive IsPlainOperand : String → Prop
  | literal {literal : String} (isPlainLiteral : IsPlainLiteral literal) : IsPlainOperand literal
  | name {name : String} (isBareName : IsBareName name.toList) : IsPlainOperand name

/-- The names of a condition are plain words, and its text holds no single quote. -/
def ConditionIsPlain (condition : Condition) : Prop :=
  IsBareName condition.column.toList ∧ IsPlainOperand condition.literal

/-- A list of plain words that is not empty. -/
def ArePlainNames (names : List String) : Prop :=
  names ≠ [] ∧ ∀ name ∈ names, IsBareName name.toList

/-- The names of a statement are plain words, its texts hold no single quote, and its lists are not
empty. -/
def Statement.IsPlain : Statement → Prop
  | .select columns table condition =>
      (∀ names, columns = .listed names → ArePlainNames names) ∧ IsBareName table.toList ∧
        ∀ own, condition = some own → ConditionIsPlain own
  | .insert table attributes literals =>
      IsBareName table.toList ∧ ArePlainNames attributes ∧ literals ≠ [] ∧
        ∀ literal ∈ literals, IsPlainLiteral literal
  | .delete table condition =>
      IsBareName table.toList ∧ ∀ own, condition = some own → ConditionIsPlain own

theorem doubled_of_not_mem
    {quote : Char}
    {content : List Char}
    (noQuote : quote ∉ content) :
    doubled quote content = content := by
  unfold doubled
  induction content with
  | nil => rfl
  | cons c content inductionHypothesis =>
      rw [List.mem_cons, not_or] at noQuote
      rw [List.flatMap_cons, if_neg (Ne.symm noQuote.1), inductionHypothesis noQuote.2]
      rfl

theorem IsPlainLiteral.exists_form
    {literal : String}
    (isPlainLiteral : IsPlainLiteral literal) :
    ∃ form, IsLiteral literal form ∧ Spells form literal.toList := by
  cases isPlainLiteral with
  | text noQuote =>
      rename_i content
      refine ⟨.text content, .text content, ?_⟩
      have spells := Spells.text content
      rw [doubled_of_not_mem noQuote] at spells
      simpa using spells
  | number isNumber => exact ⟨.number literal, .number literal, .number isNumber⟩

theorem IsPlainOperand.exists_form
    {operand : String}
    (isPlainOperand : IsPlainOperand operand) :
    ∃ form, IsOperand operand form ∧ Spells form operand.toList := by
  cases isPlainOperand with
  | literal isPlainLiteral =>
      obtain ⟨form, isLiteral, spells⟩ := isPlainLiteral.exists_form
      exact ⟨form, .literal isLiteral, spells⟩
  | name isBareName => exact ⟨.name operand, .name operand, .bareName isBareName⟩

theorem endsToken_of_head
    {c : Char}
    (ends : isBlank c = true ∨ c ∈ tightMarks)
    (rest : List Char) :
    EndsToken (c :: rest) := by
  rintro d ⟨⟩
  exact ends

theorem endsToken_nil : EndsToken [] := nofun

theorem spells_keyword (keyword : Keyword) : Spells (.keyword keyword) keyword.text.toList :=
  .keyword (by cases keyword <;> decide)

section
variable {forms : List TokenForm} {rest : List Char} (layout : Layout forms rest)
include layout

/-- A token with a space behind it. -/
theorem Layout.spaced
    {form : TokenForm}
    {word : List Char}
    (spells : Spells form word) :
    Layout (form :: forms) (word ++ ' ' :: rest) :=
  .token spells (.inr (endsToken_of_head (.inl (by decide)) rest)) (.blank (by decide) layout)

/-- Tokens with commas and spaces between them. -/
theorem Layout.list
    {items : List TokenForm}
    {words : List (List Char)}
    (spell : List.Forall₂ Spells items words)
    (nonempty : words ≠ [])
    (ends : EndsToken rest) :
    Layout (commaList items ++ forms) ([',', ' '].intercalate words ++ rest) := by
  induction spell with
  | nil => exact absurd rfl nonempty
  | cons spells others inductionHypothesis =>
      rename_i item word items words
      cases others with
      | nil => simpa [commaList] using Layout.token spells (.inr ends) layout
      | cons next others =>
          rename_i item' word' items words
          have behind := inductionHypothesis (by simp)
          have comma : Layout (.comma :: (commaList (item' :: items) ++ forms))
              ([','] ++ ' ' :: ([',', ' '].intercalate (word' :: words) ++ rest)) :=
            .token .comma (.inl rfl) (.blank (by decide) behind)
          have whole := Layout.token spells
            (.inr (endsToken_of_head (.inr (by decide)) _)) comma
          rw [List.intercalate_cons_cons]
          simpa [commaList] using whole

end

/-- The normal text of an optional condition is a layout. -/
theorem exists_layout_whereText
    {condition : Option Condition}
    (plain : ∀ own, condition = some own → ConditionIsPlain own) :
    ∃ forms, DerivesWhere condition forms ∧
      Layout forms (Statement.whereText condition).toList ∧
        EndsToken (Statement.whereText condition).toList := by
  cases condition with
  | none => exact ⟨[], .absent, .nil, endsToken_nil⟩
  | some condition =>
      obtain ⟨column, op, literal⟩ := condition
      obtain ⟨isBareName, isPlainOperand⟩ := plain _ rfl
      obtain ⟨form, isOperand, spells⟩ := isPlainOperand.exists_form
      have operand : Layout [form] (literal.toList ++ []) := .token spells (.inr endsToken_nil) .nil
      have fromOperator := operand.spaced (.operator op)
      have fromColumn := fromOperator.spaced (.bareName isBareName)
      have fromWhere := fromColumn.spaced (spells_keyword .where)
      have whole : Layout [.keyword .where, .name column, .operator op, form]
          (' ' :: (Keyword.where.text.toList ++ ' ' :: (column.toList ++ ' ' ::
            (op.symbol.toList ++ ' ' :: (literal.toList ++ []))))) :=
        .blank (by decide) fromWhere
      have textEq : (Statement.whereText (some ⟨column, op, literal⟩)).toList =
          ' ' :: (Keyword.where.text.toList ++ ' ' :: (column.toList ++ ' ' ::
            (op.symbol.toList ++ ' ' :: (literal.toList ++ [])))) := by
        simp [Statement.whereText, Condition.text, Keyword.text]
      refine ⟨_, .present column op isOperand, textEq ▸ whole, ?_⟩
      rw [textEq]
      exact endsToken_of_head (.inl (by decide)) _

theorem toList_listText (items : List String) :
    (Statement.listText items).toList = [',', ' '].intercalate (items.map String.toList) := by
  rw [Statement.listText, String.toList_intercalate]
  rfl

/-- The normal text of a list of plain words is a layout. -/
theorem Layout.names
    {forms : List TokenForm}
    {rest : List Char}
    (layout : Layout forms rest)
    {names : List String}
    (plain : ArePlainNames names)
    (ends : EndsToken rest) :
    Layout (commaList (names.map .name) ++ forms)
      ((Statement.listText names).toList ++ rest) := by
  obtain ⟨nonempty, areBare⟩ := plain
  rw [toList_listText]
  refine layout.list ?_ (by simpa using nonempty) ends
  rw [List.forall₂_map_left_iff, List.forall₂_map_right_iff, List.forall₂_same]
  exact fun name member => .bareName (areBare name member)

/-- The normal text of columns is a layout. -/
theorem Layout.columns
    {forms : List TokenForm}
    {rest : List Char}
    (layout : Layout forms rest)
    {columns : Columns}
    (plain : ∀ names, columns = .listed names → ArePlainNames names)
    (ends : EndsToken rest) :
    ∃ columnForms, DerivesColumns columns columnForms ∧
      Layout (columnForms ++ forms) ((Statement.columnsText columns).toList ++ rest) := by
  cases columns with
  | all => exact ⟨_, .all, .token .star (.inr ends) layout⟩
  | listed names =>
      obtain ⟨nonempty, areBare⟩ := plain names rfl
      obtain ⟨first, others, rfl⟩ := List.exists_cons_of_ne_nil nonempty
      exact ⟨_, .listed first others, layout.names ⟨nonempty, areBare⟩ ends⟩

/-- The normal text of literals that are written as they are is a layout. -/
theorem Layout.literals
    {forms : List TokenForm}
    {rest : List Char}
    (layout : Layout forms rest)
    {literals : List String}
    (nonempty : literals ≠ [])
    (plain : ∀ literal ∈ literals, IsPlainLiteral literal)
    (ends : EndsToken rest) :
    ∃ literalForms, List.Forall₂ IsLiteral literals literalForms ∧
      Layout (commaList literalForms ++ forms)
        ((Statement.listText literals).toList ++ rest) := by
  have forms : ∃ literalForms, List.Forall₂ IsLiteral literals literalForms ∧
      List.Forall₂ Spells literalForms (literals.map String.toList) := by
    clear nonempty
    induction literals with
    | nil => exact ⟨[], .nil, .nil⟩
    | cons literal others inductionHypothesis =>
        obtain ⟨form, isLiteral, spells⟩ := (plain literal List.mem_cons_self).exists_form
        obtain ⟨otherForms, areLiterals, spell⟩ :=
          inductionHypothesis fun own member => plain own (List.mem_cons_of_mem literal member)
        exact ⟨form :: otherForms, .cons isLiteral areLiterals, .cons spells spell⟩
  obtain ⟨literalForms, areLiterals, spell⟩ := forms
  refine ⟨literalForms, areLiterals, ?_⟩
  rw [toList_listText]
  exact layout.list spell (by simpa using nonempty) ends

/-- The normal text of a statement is a layout if it needs no quotes. -/
theorem Statement.IsPlain.exists_layout
    {statement : Statement}
    (plain : statement.IsPlain) :
    ∃ forms, Derives statement forms ∧ Layout forms statement.text.toList := by
  cases statement with
  | select columns table condition =>
      obtain ⟨plainColumns, bareTable, plainCondition⟩ := plain
      obtain ⟨whereForms, derivesWhere, whereLayout, ends⟩ :=
        exists_layout_whereText plainCondition
      have fromTable := Layout.token (.bareName bareTable) (.inr ends) whereLayout
      have fromFrom := Layout.blank (c := ' ') (by decide)
        (fromTable.spaced (spells_keyword .from))
      obtain ⟨columnForms, derivesColumns, fromColumns⟩ :=
        fromFrom.columns plainColumns (endsToken_of_head (.inl (by decide)) _)
      refine ⟨_, .select table derivesColumns derivesWhere, ?_⟩
      have whole := fromColumns.spaced (spells_keyword .select)
      have textEq : (Statement.select columns table condition).text =
          "SELECT " ++ Statement.columnsText columns ++ " FROM " ++ table ++
            Statement.whereText condition := rfl
      simpa [textEq, Keyword.text] using whole
  | insert table attributes literals =>
      obtain ⟨bareTable, plainNames, nonempty, plainLiterals⟩ := plain
      have last : Layout [.close] ([')'] ++ []) := .token .close (.inl rfl) .nil
      obtain ⟨literalForms, areLiterals, fromLiterals⟩ :=
        last.literals nonempty plainLiterals (endsToken_of_head (.inr (by decide)) _)
      have fromOpen := Layout.token .open (.inl rfl) fromLiterals
      have fromValues := Layout.blank (c := ' ') (by decide)
        (fromOpen.spaced (spells_keyword .values))
      have fromClose := Layout.token .close (.inl rfl) fromValues
      have fromNames := fromClose.names plainNames (endsToken_of_head (.inr (by decide)) _)
      have fromFirst := Layout.token .open (.inl rfl) fromNames
      have fromTable := fromFirst.spaced (.bareName bareTable)
      have whole := (fromTable.spaced (spells_keyword .into)).spaced (spells_keyword .insert)
      obtain ⟨first, others, rfl⟩ := List.exists_cons_of_ne_nil plainNames.1
      refine ⟨_, .insert table first others nonempty areLiterals, ?_⟩
      have textEq : (Statement.insert table (first :: others) literals).text =
          "INSERT INTO " ++ table ++ " (" ++ Statement.listText (first :: others) ++
            ") VALUES (" ++ Statement.listText literals ++ ")" := rfl
      simpa [textEq, Keyword.text] using whole
  | delete table condition =>
      obtain ⟨bareTable, plainCondition⟩ := plain
      obtain ⟨whereForms, derivesWhere, whereLayout, ends⟩ :=
        exists_layout_whereText plainCondition
      have fromTable := Layout.token (.bareName bareTable) (.inr ends) whereLayout
      have whole := (fromTable.spaced (spells_keyword .from)).spaced (spells_keyword .delete)
      refine ⟨_, .delete table derivesWhere, ?_⟩
      have textEq : (Statement.delete table condition).text =
          "DELETE FROM " ++ table ++ Statement.whereText condition := rfl
      simpa [textEq, Keyword.text] using whole

/-- Whatever way a statement is written token by token, with blanks between the tokens and an
optional semicolon at the end, it is read back. In particular its normal text is, if its names are
plain words and its texts hold no single quote. -/
theorem parse_eq_ok_of_layout :
    (∀ (statement : Statement) (forms : List TokenForm) (sql : String),
      Sentence statement forms → Layout forms sql.toList →
        Statement.parse sql = .ok statement) ∧
      ∀ statement : Statement, statement.IsPlain →
        Statement.parse statement.text = .ok statement := by
  refine ⟨fun statement forms sql sentence layout => sentence.parse_eq_ok layout, ?_⟩
  intro statement plain
  obtain ⟨forms, derives, layout⟩ := plain.exists_layout
  exact (Sentence.plain derives).parse_eq_ok layout

/-- A deletion with a quoted name and a doubled quote, and the normal text of a query. -/
theorem parse_eq_ok_of_layout_sample :
    Statement.parse "dElEtE\tFROM \"a b\"\n where x <> 'it''s';" =
        .ok (.delete "a b" (some ⟨"x", .notEqual, "'it's'"⟩)) ∧
      Statement.parse (Statement.select (.listed ["a", "b"]) "T" none).text =
        .ok (.select (.listed ["a", "b"]) "T" none) := by
  constructor
  · have fromText : Layout [.text "it's", .semicolon]
        ('\'' :: (doubled '\'' "it's".toList ++ ['\'']) ++ ([';'] ++ [])) :=
      .token (.text "it's") (.inr (endsToken_of_head (.inr (by decide)) []))
        (.token .semicolon (.inl rfl) .nil)
    have column : Spells (.name "x") "x".toList := .bareName ⟨by decide, by decide⟩
    have conditionWord : Spells (.keyword .where) "where".toList := .keyword (by decide)
    have fromWhere := ((fromText.spaced .unequal).spaced column).spaced conditionWord
    have fromTable := Layout.token (.quotedName "a b")
      (.inr (endsToken_of_head (.inl (by decide)) _))
      (Layout.blank (c := '\n') (by decide) (Layout.blank (c := ' ') (by decide) fromWhere))
    have verb : Spells (.keyword .delete) "dElEtE".toList := .keyword (by decide)
    have whole := Layout.token verb (.inr (endsToken_of_head (.inl (by decide)) _))
      (Layout.blank (c := '\t') (by decide) (fromTable.spaced (spells_keyword .from)))
    have derives := Derives.delete "a b"
      (.present "x" .notEqual (.literal (.text "it's")))
    refine parse_eq_ok_of_layout.1 _ _ _ (.closed derives) ?_
    have textEq : "dElEtE\tFROM \"a b\"\n where x <> 'it''s';".toList =
        "dElEtE".toList ++ '\t' :: (Keyword.from.text.toList ++ ' ' ::
          ('"' :: (doubled '"' "a b".toList ++ ['"']) ++ '\n' :: ' ' ::
            ("where".toList ++ ' ' :: ("x".toList ++ ' ' :: (['<', '>'] ++ ' ' ::
              ('\'' :: (doubled '\'' "it's".toList ++ ['\'']) ++ ([';'] ++ []))))))) := by
      decide
    rw [textEq]
    exact whole
  · apply parse_eq_ok_of_layout.2
    refine ⟨?_, ⟨by decide, by decide⟩, nofun⟩
    rintro _ ⟨⟩
    refine ⟨by simp, fun name member => ?_⟩
    rcases List.mem_pair.1 member with rfl | rfl
    · exact ⟨by decide, by decide⟩
    · exact ⟨by decide, by decide⟩

end Query
end FlatTables
