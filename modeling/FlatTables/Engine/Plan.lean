import FlatTables.Fault
import FlatTables.Query.Statement

/-!
# Plans

A plan is all that a statement will do, worked out on the catalog before anything is changed: the
table to return, or the new state of the one table to be changed. A statement is rejected exactly
if it has no plan.
-/

namespace FlatTables
namespace Engine

open Query (Columns Statement)

/-- What a statement will do. A changed table is given in its new state. -/
inductive Plan
  | select (result : Table)
  | insert (table : Table) (row : Row)
  | delete (table : Table) (deleted : Nat)
  deriving DecidableEq, Repr

namespace Plan

/-- A step that can only fail by rejecting the statement. -/
def orReject (step : Except Rejection α) : Except Fault α :=
  step.mapError .rejected

/-- The positions of names in a schema, or a rejection of the first that is not there. -/
def ordinals (schema : Schema) : List String → Except Rejection (List Nat)
  | [] => .ok []
  | name :: rest => do
      let ordinal ← schema.ordinal name
      let others ← ordinals schema rest
      return ordinal :: others

/-- Reject a list of names in which one occurs twice. -/
def checkDistinct (names : List String) : Except Rejection Unit :=
  match firstRepeated? [] names with
  | some name => .error (.duplicateAttribute name)
  | none => .ok ()

/-- The schema of distinct names that have all been found. -/
def resultSchema (schema : Schema) (names : List String) : Except Fault Schema :=
  (schema.project names).mapError fun
    | .unknown name => .rejected (.unknownAttribute name)
    | .repeated fault => .repeatedName fault

/-- Bind an optional condition. -/
def bindWhere (condition : Option Condition) (schema : Schema) :
    Except Rejection (Option BoundCondition) :=
  match condition with
  | none => .ok none
  | some condition => (condition.bind schema).map some

/-- Whether a row meets an optional condition. -/
def meets (bound : Option BoundCondition) (row : Row) : Except Fault Bool :=
  match bound with
  | none => .ok true
  | some bound => (bound.holds row).mapError .matching

/-- Split rows into those that meet an optional condition and those that do not. -/
def sift (bound : Option BoundCondition) : List Row → Except Fault (List Row × List Row)
  | [] => .ok ([], [])
  | row :: rest => do
      let met ← meets bound row
      let (matching, others) ← sift bound rest
      return if met then (row :: matching, others) else (matching, row :: others)

/-- The values of rows at some positions. -/
def projectAll (ordinals : List Nat) : List Row → Except Fault (List Row)
  | [] => .ok []
  | row :: rest =>
      match row.project? ordinals with
      | none => .error (.noSuchElement "tuple")
      | some row => (projectAll ordinals rest).map (row :: ·)

/-- The names a query lists. -/
def listed (schema : Schema) : Columns → List String
  | .all => schema.names
  | .listed names => names

/-- Plan a query. -/
def ofSelect (catalog : Catalog) (columns : Columns) (name : String)
    (condition : Option Condition) : Except Fault Plan := do
  let source ← orReject (catalog.resolve name)
  let names := listed source.schema columns
  let ordinals ← orReject (ordinals source.schema names)
  orReject (checkDistinct names)
  let schema ← resultSchema source.schema names
  let bound ← orReject (bindWhere condition source.schema)
  let (matching, _) ← sift bound source.rows
  let rows ← projectAll ordinals matching
  let result ← (Table.ofRows none schema rows).mapError .row
  return .select result

/-- Reject a list of attributes that is not the whole schema, or has not one literal each. -/
def checkLists (table : Table) (attributes literals : List String) : Except Rejection Unit :=
  if attributes.length ≠ literals.length then
    .error (.listLengths attributes.length literals.length)
  else if attributes ≠ table.schema.names then
    .error (.notWholeSchema attributes (table.name.getD "") table.schema)
  else .ok ()

/-- Check that a row can be stored. -/
def checkStorable (row : Row) (literals : List String) : Except Fault Unit :=
  (Literal.ensureStorable row literals).mapError fun
    | .rejected rejection => .rejected rejection
    | .noLiteral => .noSuchElement "list"

/-- Plan an insertion. -/
def ofInsert (catalog : Catalog) (name : String) (attributes literals : List String) :
    Except Fault Plan := do
  let table ← orReject (catalog.resolve name)
  orReject (checkLists table attributes literals)
  let row ← orReject (Literal.coerceAll table.schema.attributes literals)
  checkStorable row literals
  let table ← (table.append row).mapError .row
  return .insert table row

/-- Plan a deletion. -/
def ofDelete (catalog : Catalog) (name : String) (condition : Option Condition) :
    Except Fault Plan := do
  let table ← orReject (catalog.resolve name)
  let bound ← orReject (bindWhere condition table.schema)
  let (_, retained) ← sift bound table.rows
  let shrunk ← (table.replaceRows retained).mapError .row
  return .delete shrunk (table.size - shrunk.size)

/-- Plan a statement. -/
def ofStatement (catalog : Catalog) : Statement → Except Fault Plan
  | .select columns name condition => ofSelect catalog columns name condition
  | .insert name attributes literals => ofInsert catalog name attributes literals
  | .delete name condition => ofDelete catalog name condition

end Plan
end Engine
end FlatTables
