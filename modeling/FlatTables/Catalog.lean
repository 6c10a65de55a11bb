import FlatTables.Rejection
import FlatTables.Table
import FlatTables.Text.CaseFold

/-!
# Catalogs

A catalog lists the named tables in the order they were registered. Names are compared by their
case folding, and no two registered tables share a folded name.
-/

namespace FlatTables

/-- Why a table cannot be registered. -/
inductive CatalogFault
  | unnamed
  | nameTaken (name : String)
  deriving DecidableEq, Repr

/-- The wording of a catalog fault. -/
def CatalogFault.message : CatalogFault → String
  | .unnamed => "Cannot register an unnamed table"
  | .nameTaken name => "Duplicate table name: " ++ Text.quoted name

/-- The table goes by a name, in any case. -/
def Table.isCalled (table : Table) (name : String) : Bool :=
  table.name.any fun own => Text.fold own = Text.fold name

/-- The registered tables, oldest first. -/
structure Catalog where
  tables : List Table := []
  deriving DecidableEq, Repr

namespace Catalog

/-- The names of the tables. -/
def names (catalog : Catalog) : List String :=
  catalog.tables.filterMap Table.name

/-- The table with a given name, in any case. -/
def find? (catalog : Catalog) (name : String) : Option Table :=
  catalog.tables.find? (·.isCalled name)

/-- A table with this name is registered. -/
def contains (catalog : Catalog) (name : String) : Bool :=
  (catalog.find? name).isSome

/-- The table with a given name, or a rejection that gives the name as written. -/
def resolve (catalog : Catalog) (name : String) : Except Rejection Table :=
  match catalog.find? name with
  | some table => .ok table
  | none => .error (.tableNotFound name)

/-- Register a table. -/
def add (catalog : Catalog) (table : Table) : Except CatalogFault Catalog :=
  match table.name with
  | none => .error .unnamed
  | some name =>
      if catalog.contains name then .error (.nameTaken name)
      else .ok { tables := catalog.tables ++ [table] }

/-- Put a new version of the table with a given name in place of the old one. -/
def update (catalog : Catalog) (name : String) (table : Table) : Catalog :=
  { tables := catalog.tables.map fun old => if old.isCalled name then table else old }

end Catalog
end FlatTables
