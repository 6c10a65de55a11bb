import FlatTables.Row

/-!
# Tables

A table is an ordered list of rows under a schema. Rows enter a table only after they have been
checked against the schema, and a list of rows replaces the old one only if all of them conform.
Tables computed by a query have no name.
-/

namespace FlatTables

/-- Rows under a schema; a computed table has no name. -/
structure Table where
  name : Option String
  schema : Schema
  rows : List Row := []
  deriving DecidableEq, Repr

namespace Table

/-- Every row conforms to the schema. -/
def Conforming (table : Table) : Prop :=
  ∀ row ∈ table.rows, row.Conforms table.schema

/-- The number of rows. -/
def size (table : Table) : Nat :=
  table.rows.length

/-- Check rows in order, stopping at the first that does not conform. -/
def checkAll (schema : Schema) : List Row → Except RowFault Unit
  | [] => .ok ()
  | row :: rest =>
      match row.check schema with
      | .error fault => .error fault
      | .ok () => checkAll schema rest

/-- Add a row at the end. -/
def append (table : Table) (row : Row) : Except RowFault Table :=
  (row.check table.schema).map fun () => { table with rows := table.rows ++ [row] }

/-- Put other rows in place of all rows. -/
def replaceRows (table : Table) (rows : List Row) : Except RowFault Table :=
  (checkAll table.schema rows).map fun () => { table with rows }

/-- Drop all rows. -/
def truncate (table : Table) : Table :=
  { table with rows := [] }

/-- Build a table from its rows. -/
def ofRows (name : Option String) (schema : Schema) (rows : List Row) : Except RowFault Table :=
  replaceRows { name, schema } rows

/-- The text of a table: its name and schema, and how many rows it has. -/
def display (table : Table) : String :=
  "Table(" ++ table.name.getD "<result>" ++ table.schema.text ++ ", rows="
    ++ toString table.size ++ ")"

/-- The lines of a table: attribute names, then one line a row, columns separated by tabs. Fails
if an integer has too many digits. -/
def render? (table : Table) : Option String :=
  (table.rows.mapM (List.mapM Value.format?)).map fun rows =>
    String.intercalate "\n" ((table.schema.names :: rows).map (String.intercalate "\t"))

end Table
end FlatTables
