import FlatTables.Condition

/-!
# Statements

The three statements of the query language and their normal text. Literals are kept as they are
written, quotes included.
-/

namespace FlatTables
namespace Query

/-- The columns a query asks for. -/
inductive Columns
  | all
  | listed (names : List String)
  deriving DecidableEq, Repr

/-- A statement. -/
inductive Statement
  | select (columns : Columns) (table : String) (condition : Option Condition)
  | insert (table : String) (attributes literals : List String)
  | delete (table : String) (condition : Option Condition)
  deriving DecidableEq, Repr

/-- The type of a statement. -/
inductive StatementType
  | select
  | insert
  | delete
  deriving DecidableEq, Repr

namespace StatementType

/-- The name of a statement type. -/
def name : StatementType → String
  | .select => "select"
  | .insert => "insert"
  | .delete => "delete"

/-- The name of a statement type in upper case. -/
def upperName : StatementType → String
  | .select => "SELECT"
  | .insert => "INSERT"
  | .delete => "DELETE"

end StatementType

namespace Statement

/-- The type of a statement. -/
def type : Statement → StatementType
  | .select .. => .select
  | .insert .. => .insert
  | .delete .. => .delete

/-- The table a statement names. -/
def table : Statement → String
  | .select _ table _ => table
  | .insert table _ _ => table
  | .delete table _ => table

/-- The text of an optional condition with its keyword. -/
def whereText : Option Condition → String
  | some condition => " WHERE " ++ condition.text
  | none => ""

/-- Names or literals separated by commas. -/
def listText (items : List String) : String :=
  String.intercalate ", " items

/-- The text of a list of columns. -/
def columnsText : Columns → String
  | .all => "*"
  | .listed names => listText names

/-- The normal text of a statement. -/
def text : Statement → String
  | .select columns table condition =>
      "SELECT " ++ columnsText columns ++ " FROM " ++ table ++ whereText condition
  | .insert table attributes literals =>
      "INSERT INTO " ++ table ++ " (" ++ listText attributes ++ ") VALUES (" ++ listText literals
        ++ ")"
  | .delete table condition => "DELETE FROM " ++ table ++ whereText condition

end Statement
end Query
end FlatTables
