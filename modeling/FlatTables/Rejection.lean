import FlatTables.Comparison
import FlatTables.Query.Keyword
import FlatTables.Schema

/-!
# Rejections

Why a statement is not carried out. A rejection names its cause; its kind, class and message are
computed from that. Nothing has been changed when a statement is rejected.
-/

namespace FlatTables

open Query (Keyword)

/-- What a statement should have held at the place of its fault. -/
inductive Expectation
  | keyword (word : Keyword)
  | attributeName
  | tableName
  | openAttributes
  | closeAttributes
  | openValues
  | closeValues
  | literal
  deriving DecidableEq, Repr

/-- The wording of an expectation. -/
def Expectation.wording : Expectation → String
  | .keyword word => word.text
  | .attributeName => "attribute name"
  | .tableName => "table name"
  | .openAttributes => "'(' before attribute list"
  | .closeAttributes => "')' after attribute list"
  | .openValues => "'(' before value list"
  | .closeValues => "')' after value list"
  | .literal => "a quoted text or numeric literal"

/-- Why a text is no statement; `found` is the text of the token at fault, and `context` the part
of the text shown for a quote or comment that is not closed. -/
inductive GrammarFault
  | empty
  | unclosed (context : String)
  | unexpectedToken
  | unsupported
  | expected (what : Expectation) (found : String)
  | trailing
  deriving DecidableEq, Repr

/-- The wording of a grammar fault. -/
def GrammarFault.wording : GrammarFault → String
  | .empty => "Empty statement"
  | .unclosed context => "Could not tokenize statement (Error tokenizing '" ++ context ++ "')"
  | .unexpectedToken => "Unexpected token"
  | .unsupported => "Unsupported statement, expected SELECT, INSERT or DELETE"
  | .expected what found => "Expected " ++ what.wording ++ ", found " ++ found
  | .trailing => "Unexpected text after statement"

/-- Why a WHERE clause is no condition. -/
inductive ConditionFault
  | empty
  | noOperator
  | manyOperators
  | leftSide
  | rightSide
  | notLiteral (found : String)
  deriving DecidableEq, Repr

/-- The wording of a condition fault. -/
def ConditionFault.wording : ConditionFault → String
  | .empty => "Empty WHERE clause"
  | .noOperator => "No comparison operator in WHERE clause"
  | .manyOperators => "More than one comparison operator in WHERE clause"
  | .leftSide => "Left side of a condition must be one attribute name"
  | .rightSide => "Right side of a condition must be one literal"
  | .notLiteral found => "Expected a literal, found " ++ found

/-- Why a text that fits its attribute cannot be kept in a data file. -/
inductive StorageLimit
  | separator
  | blankRow
  deriving DecidableEq, Repr

/-- The wording of a storage limit. -/
def StorageLimit.wording : StorageLimit → String
  | .separator => "commas and line breaks cannot be stored"
  | .blankRow => "a blank single-value row cannot be stored"

/-- Why a statement is not carried out. -/
inductive Rejection
  | ungrammatical (fault : GrammarFault) (clause : String)
  | malformedCondition (fault : ConditionFault) (clause : String)
  | tableNotFound (name : String)
  | unknownAttribute (name : String)
  | duplicateAttribute (name : String)
  | listLengths (attributes literals : Nat)
  | notWholeSchema (given : List String) (table : String) (schema : Schema)
  | invalidLiteral (literal : String) (type : AttributeType) (limit : Option StorageLimit)
  | unsupportedOperator (op : ComparisonOp) (type : AttributeType)
  deriving DecidableEq, Repr

namespace Rejection

/-- The stable kind of a rejection. -/
def kind : Rejection → String
  | .ungrammatical .. => "parse_error"
  | .malformedCondition .. => "malformed_condition"
  | .tableNotFound _ => "table_not_found"
  | .unknownAttribute _ => "unknown_attribute"
  | .duplicateAttribute _ => "duplicate_attribute"
  | .listLengths .. | .notWholeSchema .. => "arity_mismatch"
  | .invalidLiteral .. => "invalid_literal"
  | .unsupportedOperator .. => "unsupported_operator"

/-- The class of a rejection, as traces show it. -/
def label : Rejection → String
  | .ungrammatical .. => "ParseError"
  | .malformedCondition .. => "MalformedCondition"
  | .tableNotFound _ => "TableNotFound"
  | .unknownAttribute _ => "UnknownAttribute"
  | .duplicateAttribute _ => "DuplicateAttribute"
  | .listLengths .. | .notWholeSchema .. => "ArityMismatch"
  | .invalidLiteral .. => "InvalidLiteral"
  | .unsupportedOperator .. => "UnsupportedOperator"

/-- A message followed by the part of the statement it is about, if there is one. -/
def withClause (message clause : String) : String :=
  if clause = "" then message else message ++ ": " ++ Text.quoted clause

/-- The message of a rejection. -/
def message : Rejection → String
  | .ungrammatical fault clause => withClause fault.wording clause
  | .malformedCondition fault clause => withClause fault.wording clause
  | .tableNotFound name => "Table not found: " ++ name
  | .unknownAttribute name => "Unknown attribute: " ++ name
  | .duplicateAttribute name => "Duplicate attribute: " ++ name
  | .listLengths attributes literals =>
      toString attributes ++ " attributes but " ++ toString literals ++ " values"
  | .notWholeSchema given table schema =>
      "Attribute list (" ++ String.intercalate ", " given ++ ") must match the schema of "
        ++ table ++ " " ++ schema.text
  | .invalidLiteral literal type limit =>
      let message := "Invalid " ++ type.name ++ " literal: " ++ Text.quoted literal
      match limit with
      | some limit => message ++ " (" ++ limit.wording ++ ")"
      | none => message
  | .unsupportedOperator op type =>
      "Operator " ++ Text.quoted op.symbol ++ " is not supported for " ++ type.name
        ++ " attributes"

end Rejection

/-- The position of a name in a schema, or a rejection. -/
def Schema.ordinal (schema : Schema) (name : String) : Except Rejection Nat :=
  match schema.indexOf? name with
  | some ordinal => .ok ordinal
  | none => .error (.unknownAttribute name)

end FlatTables
