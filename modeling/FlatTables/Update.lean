import FlatTables.Table

/-!
# Updates in place

The steps in which the rows of a table are changed in place. A row is checked before it is added,
and rows given as a whole are checked one after the other before they take the place of all others.
Steps leave rows behind whether they succeed or fail.
-/

namespace FlatTables

/-- A call that changes a table. The rows that are given with it have not been checked. -/
inductive Update
  | append (row : Row)
  | replaceRows (rows : List Row)
  | truncate
  deriving DecidableEq, Repr

namespace Update

/-- The rows that are given with a call. -/
def given : Update → List Row
  | .append row => [row]
  | .replaceRows rows => rows
  | .truncate => []

/-- What the rows of a table become if the call succeeds. -/
def changed : Update → List Row → List Row
  | .append row, held => held ++ [row]
  | .replaceRows rows, _ => rows
  | .truncate, _ => []

/-- Make the call at once: it gives a new table or a fault. -/
def apply (table : Table) : Update → Except RowFault Table
  | .append row => table.append row
  | .replaceRows rows => table.replaceRows rows
  | .truncate => .ok table.truncate

/-! ## Steps -/

/-- Steps on the rows of a table: they end with a result or a fault and leave rows behind. -/
abbrev Steps (α : Type) := ExceptT RowFault (StateM (List Row)) α

/-- Check a row. -/
def check (schema : Schema) (row : Row) : Steps Unit :=
  ExceptT.mk (pure (row.check schema))

/-- The steps of a call on a table with a given schema. -/
def steps (schema : Schema) : Update → Steps Unit
  | .append row => do
      check schema row
      modify (· ++ [row])
  | .replaceRows rows => do
      forM rows (check schema)
      set rows
  | .truncate => set ([] : List Row)

/-- Make the call step by step, and tell what becomes of the table. -/
def perform (table : Table) (update : Update) : Except RowFault Unit × Table :=
  let (result, rows) := ((update.steps table.schema).run).run table.rows
  (result, { table with rows })

/-- What becomes of a table through calls in a row, whether they succeed or fail. -/
def performAll (table : Table) (updates : List Update) : Table :=
  updates.foldl (fun table update => (update.perform table).2) table

end Update
end FlatTables
