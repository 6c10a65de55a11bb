import FlatTables.Proofs.Except
import FlatTables.Query.Parser
import Mathlib.Data.List.Forall2

/-!
# Sentences

The grammar of the query language as a relation between statements and the forms of their tokens,
apart from the parser and without positions. Every part of a sentence is read as what it stands
for, with whatever follows it left over, so a whole sentence is read as its statement.
-/

namespace FlatTables
namespace Query

/-! ## The grammar -/

/-- Items with commas between them. -/
def commaList : List TokenForm → List TokenForm
  | [] => []
  | first :: others => first :: others.flatMap fun item => [.comma, item]

/-- A literal and its token. A text has its quotes back, a number is kept as it is written. -/
inductive IsLiteral : String → TokenForm → Prop
  | text (content : String) : IsLiteral ("'" ++ content ++ "'") (.text content)
  | number (digits : String) : IsLiteral digits (.number digits)

/-- The right side of a condition and its token: a literal, or a name that stands for its text. -/
inductive IsOperand : String → TokenForm → Prop
  | literal {literal : String} {form : TokenForm} (isLiteral : IsLiteral literal form) :
      IsOperand literal form
  | name (name : String) : IsOperand name (.name name)

/-- The tokens of an optional condition with its keyword. -/
inductive DerivesWhere : Option Condition → List TokenForm → Prop
  | absent : DerivesWhere none []
  | present {literal : String} {operand : TokenForm} (column : String) (op : ComparisonOp)
      (isOperand : IsOperand literal operand) :
      DerivesWhere (some ⟨column, op, literal⟩)
        [.keyword .where, .name column, .operator op, operand]

/-- The tokens of the columns of a query. -/
inductive DerivesColumns : Columns → List TokenForm → Prop
  | all : DerivesColumns .all [.star]
  | listed (first : String) (others : List String) :
      DerivesColumns (.listed (first :: others)) (commaList ((first :: others).map .name))

/-- The tokens of a statement. -/
inductive Derives : Statement → List TokenForm → Prop
  | select {columns : Columns} {columnForms : List TokenForm} {condition : Option Condition}
      {whereForms : List TokenForm} (table : String)
      (derivesColumns : DerivesColumns columns columnForms)
      (derivesWhere : DerivesWhere condition whereForms) :
      Derives (.select columns table condition)
        (.keyword .select :: columnForms ++ .keyword .from :: .name table :: whereForms)
  | insert {literals : List String} {literalForms : List TokenForm} (table first : String)
      (others : List String) (nonempty : literals ≠ [])
      (areLiterals : List.Forall₂ IsLiteral literals literalForms) :
      Derives (.insert table (first :: others) literals)
        (.keyword .insert :: .keyword .into :: .name table :: .open ::
          commaList ((first :: others).map .name) ++
          .close :: .keyword .values :: .open :: commaList literalForms ++ [.close])
  | delete {condition : Option Condition} {whereForms : List TokenForm} (table : String)
      (derivesWhere : DerivesWhere condition whereForms) :
      Derives (.delete table condition)
        (.keyword .delete :: .keyword .from :: .name table :: whereForms)

/-- The tokens of a statement, optionally with a semicolon. -/
inductive Sentence : Statement → List TokenForm → Prop
  | plain {statement : Statement} {forms : List TokenForm} (derives : Derives statement forms) :
      Sentence statement forms
  | closed {statement : Statement} {forms : List TokenForm} (derives : Derives statement forms) :
      Sentence statement (forms ++ [.semicolon])

/-! ## Reading sentences -/

/-- The forms that may follow a statement. -/
inductive IsEnding : List TokenForm → Prop
  | finish : IsEnding [.finish]
  | semicolon : IsEnding [.semicolon, .finish]

/-- The parser takes a literal's token for that literal. -/
theorem IsLiteral.literal?_eq
    {own : String}
    {form : TokenForm}
    (isLiteral : IsLiteral own form) :
    Parser.literal? form = some own := by
  cases isLiteral <;> rfl

theorem IsOperand.operand?_eq
    {own : String}
    {form : TokenForm}
    (isOperand : IsOperand own form) :
    Parser.operand? form = some own := by
  cases isOperand with
  | literal isLiteral => cases isLiteral <;> rfl
  | name => rfl

namespace Parser

/-- A value has been read, and tokens of some forms are left over. -/
def Leaves (result : Except Rejection (Read α)) (value : α) (after : List TokenForm) : Prop :=
  ∃ rest, result = .ok (value, rest) ∧ rest.map Token.form = after

section
variable (source : List Char) {tokens : List Token} {after : List TokenForm}

theorem expect_of_form
    {form : TokenForm}
    (shape : tokens.map Token.form = form :: after)
    (what : Expectation) :
    ∃ rest, expect source form what tokens = .ok rest ∧ rest.map Token.form = after := by
  obtain ⟨token, rest, rfl, isForm, restShape⟩ := List.map_eq_cons_iff.1 shape
  exact ⟨rest, if_pos isForm, restShape⟩

theorem leaves_name
    {own : String}
    (shape : tokens.map Token.form = .name own :: after)
    (what : Expectation) :
    Leaves (name source what tokens) own after := by
  obtain ⟨⟨form, position⟩, rest, rfl, rfl, restShape⟩ := List.map_eq_cons_iff.1 shape
  exact ⟨rest, rfl, restShape⟩

/-- Names after commas are read up to a token that is no comma. -/
theorem leaves_moreNames
    {others : List String}
    (shape : tokens.map Token.form = (others.map TokenForm.name).flatMap ([.comma, ·]) ++ after)
    (stops : after.head? ≠ some .comma) :
    Leaves (moreNames source tokens) others after := by
  induction others generalizing tokens with
  | nil =>
      refine ⟨tokens, ?_, shape⟩
      rw [List.map_nil, List.flatMap_nil, List.nil_append] at shape
      subst shape
      unfold moreNames
      split
      · exact absurd rfl stops
      · exact absurd rfl stops
      · rfl
  | cons own rest inductionHypothesis =>
      simp only [List.map_cons, List.flatMap_cons, List.cons_append, List.nil_append] at shape
      obtain ⟨⟨form, position⟩, behind, rfl, rfl, behindShape⟩ := List.map_eq_cons_iff.1 shape
      obtain ⟨⟨ownForm, ownPosition⟩, left, rfl, rfl, leftShape⟩ :=
        List.map_eq_cons_iff.1 behindShape
      obtain ⟨final, read, finalShape⟩ := inductionHypothesis leftShape
      refine ⟨final, ?_, finalShape⟩
      simp only [moreNames, read]
      rfl

theorem leaves_names
    {first : String}
    {others : List String}
    (shape : tokens.map Token.form = commaList ((first :: others).map .name) ++ after)
    (stops : after.head? ≠ some .comma) :
    Leaves (names source tokens) (first :: others) after := by
  obtain ⟨rest, readFirst, restShape⟩ := leaves_name source shape .attributeName
  obtain ⟨final, readOthers, finalShape⟩ := leaves_moreNames source restShape stops
  refine ⟨final, ?_, finalShape⟩
  unfold names
  rw [readFirst]
  exact bind_eq_ok_iff.2 ⟨_, rfl, bind_eq_ok_iff.2 ⟨_, readOthers, rfl⟩⟩

theorem leaves_literal
    {own : String}
    {form : TokenForm}
    (isLiteral : IsLiteral own form)
    (shape : tokens.map Token.form = form :: after) :
    Leaves (literal source tokens) own after := by
  obtain ⟨token, rest, rfl, rfl, restShape⟩ := List.map_eq_cons_iff.1 shape
  refine ⟨rest, ?_, restShape⟩
  simp only [literal, isLiteral.literal?_eq]

/-- Literals after commas are read up to a token that is no comma. -/
theorem leaves_moreLiterals
    {others : List String}
    {forms : List TokenForm}
    (areLiterals : List.Forall₂ IsLiteral others forms)
    (shape : tokens.map Token.form = forms.flatMap ([.comma, ·]) ++ after)
    (stops : after.head? ≠ some .comma) :
    Leaves (moreLiterals source tokens) others after := by
  induction areLiterals generalizing tokens with
  | nil =>
      refine ⟨tokens, ?_, shape⟩
      rw [List.flatMap_nil, List.nil_append] at shape
      subst shape
      unfold moreLiterals
      split
      · exact absurd rfl stops
      · exact absurd rfl stops
      · rfl
  | cons isLiteral rest inductionHypothesis =>
      simp only [List.flatMap_cons, List.cons_append, List.nil_append] at shape
      obtain ⟨⟨form, position⟩, behind, rfl, rfl, behindShape⟩ := List.map_eq_cons_iff.1 shape
      obtain ⟨own, left, rfl, rfl, leftShape⟩ := List.map_eq_cons_iff.1 behindShape
      obtain ⟨final, read, finalShape⟩ := inductionHypothesis leftShape
      refine ⟨final, ?_, finalShape⟩
      simp only [moreLiterals, isLiteral.literal?_eq, read]
      rfl

theorem leaves_literals
    {own : List String}
    {forms : List TokenForm}
    (nonempty : own ≠ [])
    (areLiterals : List.Forall₂ IsLiteral own forms)
    (shape : tokens.map Token.form = commaList forms ++ after)
    (stops : after.head? ≠ some .comma) :
    Leaves (literals source tokens) own after := by
  cases areLiterals with
  | nil => exact absurd rfl nonempty
  | cons isLiteral others =>
      obtain ⟨rest, readFirst, restShape⟩ := leaves_literal source isLiteral shape
      obtain ⟨final, readOthers, finalShape⟩ := leaves_moreLiterals source others restShape stops
      refine ⟨final, ?_, finalShape⟩
      unfold literals
      rw [readFirst]
      exact bind_eq_ok_iff.2 ⟨_, rfl, bind_eq_ok_iff.2 ⟨_, readOthers, rfl⟩⟩

omit source in
/-- An operand is no operator and does not end a condition. -/
theorem inside_of_isOperand
    {own : String}
    {operand : TokenForm}
    (isOperand : IsOperand own operand)
    (position : Nat) :
    isOperator ⟨operand, position⟩ = false ∧ endsCondition ⟨operand, position⟩ = false := by
  cases isOperand with
  | literal isLiteral => cases isLiteral <;> exact ⟨rfl, rfl⟩
  | name => exact ⟨rfl, rfl⟩

omit source in
theorem exists_end_of_isEnding
    (shape : tokens.map Token.form = after)
    (ending : IsEnding after) :
    ∃ last behind, tokens = last :: behind ∧ endsCondition last = true := by
  cases ending with
  | finish =>
      obtain ⟨⟨form, position⟩, behind, rfl, rfl, _⟩ := List.map_eq_cons_iff.1 shape
      exact ⟨_, behind, rfl, rfl⟩
  | semicolon =>
      obtain ⟨⟨form, position⟩, behind, rfl, rfl, _⟩ := List.map_eq_cons_iff.1 shape
      exact ⟨_, behind, rfl, rfl⟩

omit source in
/-- A name, an operator and an operand are a condition. -/
theorem conditionOf_of_isOperand
    {own : String}
    {operand : TokenForm}
    (isOperand : IsOperand own operand)
    (column : String)
    (op : ComparisonOp)
    (position opPosition ownPosition : Nat) :
    conditionOf [⟨.name column, position⟩, ⟨.operator op, opPosition⟩, ⟨operand, ownPosition⟩] =
      .ok ⟨column, op, own⟩ := by
  have nameNot : isOperator ⟨.name column, position⟩ = false := rfl
  have operatorIs : isOperator ⟨.operator op, opPosition⟩ = true := rfl
  have operandNot := (inside_of_isOperand isOperand ownPosition).1
  simp [conditionOf, nameNot, operatorIs, operandNot, isOperand.operand?_eq]

/-- A condition is collected up to a semicolon or the end, and divided at its operator. -/
theorem leaves_condition
    {column own : String}
    {op : ComparisonOp}
    {operand : TokenForm}
    (isOperand : IsOperand own operand)
    (shape : tokens.map Token.form = .name column :: .operator op :: operand :: after)
    (ending : IsEnding after) :
    Leaves (condition source tokens) ⟨column, op, own⟩ after := by
  obtain ⟨⟨form, position⟩, behind, rfl, rfl, behindShape⟩ := List.map_eq_cons_iff.1 shape
  obtain ⟨⟨form, opPosition⟩, right, rfl, rfl, rightShape⟩ := List.map_eq_cons_iff.1 behindShape
  obtain ⟨⟨form, ownPosition⟩, rest, rfl, rfl, restShape⟩ := List.map_eq_cons_iff.1 rightShape
  obtain ⟨last, beyond, rfl, ends⟩ := exists_end_of_isEnding restShape ending
  have noEnd := (inside_of_isOperand isOperand ownPosition).2
  have nameInside : endsCondition ⟨.name column, position⟩ = false := rfl
  have operatorInside : endsCondition ⟨.operator op, opPosition⟩ = false := rfl
  have divided := conditionOf_of_isOperand isOperand column op position opPosition ownPosition
  refine ⟨last :: beyond, ?_, restShape⟩
  simp [condition, nameInside, operatorInside, noEnd, ends, divided]

theorem leaves_optionalCondition
    {own : Option Condition}
    {forms : List TokenForm}
    (derivesWhere : DerivesWhere own forms)
    (shape : tokens.map Token.form = forms ++ after)
    (ending : IsEnding after) :
    Leaves (optionalCondition source tokens) own after := by
  cases derivesWhere with
  | absent =>
      refine ⟨tokens, ?_, shape⟩
      unfold optionalCondition
      split
      · subst shape
        cases ending
      · rfl
  | present column op isOperand =>
      obtain ⟨⟨form, position⟩, behind, rfl, rfl, behindShape⟩ := List.map_eq_cons_iff.1 shape
      obtain ⟨rest, read, restShape⟩ := leaves_condition source isOperand behindShape ending
      refine ⟨rest, ?_, restShape⟩
      simp only [optionalCondition, read]
      rfl

theorem leaves_columns
    {own : Columns}
    {forms : List TokenForm}
    (derivesColumns : DerivesColumns own forms)
    (shape : tokens.map Token.form = forms ++ after)
    (stops : after.head? ≠ some .comma) :
    Leaves (columns source tokens) own after := by
  cases derivesColumns with
  | all =>
      obtain ⟨⟨form, position⟩, rest, rfl, rfl, restShape⟩ := List.map_eq_cons_iff.1 shape
      exact ⟨rest, rfl, restShape⟩
  | listed first others =>
      obtain ⟨rest, read, restShape⟩ := leaves_names source shape stops
      refine ⟨rest, ?_, restShape⟩
      unfold columns
      split
      · cases shape
      · rw [read]
        rfl

/-- A sentence without its semicolon is read as its statement. -/
theorem leaves_statement
    {own : Statement}
    {forms : List TokenForm}
    (derives : Derives own forms)
    (shape : tokens.map Token.form = forms ++ after)
    (ending : IsEnding after) :
    Leaves (statement source tokens) own after := by
  cases derives with
  | select table derivesColumns derivesWhere =>
      simp only [List.cons_append, List.append_assoc] at shape
      obtain ⟨⟨form, position⟩, behind, rfl, rfl, behindShape⟩ := List.map_eq_cons_iff.1 shape
      obtain ⟨beforeFrom, readColumns, fromShape⟩ :=
        leaves_columns source derivesColumns behindShape (by simp)
      obtain ⟨beforeTable, readFrom, tableShape⟩ :=
        expect_of_form source fromShape (.keyword .from)
      obtain ⟨beforeWhere, readTable, whereShape⟩ := leaves_name source tableShape .tableName
      obtain ⟨rest, readWhere, restShape⟩ :=
        leaves_optionalCondition source derivesWhere whereShape ending
      refine ⟨rest, ?_, restShape⟩
      simp only [statement, select, expectKeyword, bind_eq_ok_iff]
      exact ⟨_, readColumns, _, readFrom, _, readTable, _, readWhere, rfl⟩
  | insert table first others nonempty areLiterals =>
      simp only [List.cons_append, List.append_assoc, List.nil_append] at shape
      obtain ⟨⟨form, position⟩, behind, rfl, rfl, behindShape⟩ := List.map_eq_cons_iff.1 shape
      obtain ⟨beforeTable, readInto, tableShape⟩ :=
        expect_of_form source behindShape (.keyword .into)
      obtain ⟨beforeOpen, readTable, openShape⟩ := leaves_name source tableShape .tableName
      obtain ⟨beforeNames, readOpen, namesShape⟩ :=
        expect_of_form source openShape .openAttributes
      obtain ⟨beforeClose, readNames, closeShape⟩ := leaves_names source namesShape (by simp)
      obtain ⟨beforeValues, readClose, valuesShape⟩ :=
        expect_of_form source closeShape .closeAttributes
      obtain ⟨beforeList, readValues, listShape⟩ :=
        expect_of_form source valuesShape (.keyword .values)
      obtain ⟨beforeLiterals, readList, literalsShape⟩ :=
        expect_of_form source listShape .openValues
      obtain ⟨beforeLast, readLiterals, lastShape⟩ :=
        leaves_literals source nonempty areLiterals literalsShape (by simp)
      obtain ⟨rest, readLast, restShape⟩ := expect_of_form source lastShape .closeValues
      refine ⟨rest, ?_, restShape⟩
      simp only [statement, insert, expectKeyword, bind_eq_ok_iff]
      exact ⟨_, readInto, _, readTable, _, readOpen, _, readNames, _, readClose, _, readValues, _,
        readList, _, readLiterals, _, readLast, rfl⟩
  | delete table derivesWhere =>
      simp only [List.cons_append] at shape
      obtain ⟨⟨form, position⟩, behind, rfl, rfl, behindShape⟩ := List.map_eq_cons_iff.1 shape
      obtain ⟨beforeTable, readFrom, tableShape⟩ :=
        expect_of_form source behindShape (.keyword .from)
      obtain ⟨beforeWhere, readTable, whereShape⟩ := leaves_name source tableShape .tableName
      obtain ⟨rest, readWhere, restShape⟩ :=
        leaves_optionalCondition source derivesWhere whereShape ending
      refine ⟨rest, ?_, restShape⟩
      simp only [statement, delete, expectKeyword, bind_eq_ok_iff]
      exact ⟨_, readFrom, _, readTable, _, readWhere, rfl⟩

/-- The tokens of a sentence and an end token are read as its statement. -/
theorem ofTokens_of_sentence
    {own : Statement}
    {forms : List TokenForm}
    (sentence : Sentence own forms)
    (shape : tokens.map Token.form = forms ++ [.finish]) :
    ofTokens source tokens = .ok own := by
  have complete : ∀ rest, statement source tokens = .ok (own, rest) →
      (headToken source (skipSemicolon rest)).form = .finish →
        ofTokens source tokens = .ok own := by
    intro rest read atEnd
    unfold ofTokens
    refine bind_eq_ok_iff.2 ⟨_, read, ?_⟩
    simp only [atEnd, if_true]
    rfl
  cases sentence with
  | plain derives =>
      obtain ⟨rest, read, restShape⟩ := leaves_statement source derives shape .finish
      obtain ⟨⟨form, position⟩, behind, rfl, rfl, _⟩ := List.map_eq_cons_iff.1 restShape
      exact complete _ read rfl
  | closed derives =>
      rw [List.append_assoc] at shape
      obtain ⟨rest, read, restShape⟩ := leaves_statement source derives shape .semicolon
      obtain ⟨⟨form, position⟩, behind, rfl, rfl, behindShape⟩ := List.map_eq_cons_iff.1 restShape
      obtain ⟨⟨form, position⟩, beyond, rfl, rfl, _⟩ := List.map_eq_cons_iff.1 behindShape
      exact complete _ read rfl

end

end Parser
end Query
end FlatTables
