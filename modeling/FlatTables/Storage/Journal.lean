import FlatTables.Storage.Gateway

/-!
# Journals

A gateway that keeps nothing but the list of successful writes. Its tables are described once and
built anew on every load; both kinds of write can be made to fail.
-/

namespace FlatTables
namespace Storage

/-- A table as described to a journal; nothing of it has been checked. -/
structure TableDraft where
  name : Option String
  attributes : List Attribute
  rows : List Row

/-- Build a table from its description. -/
def TableDraft.build (draft : TableDraft) : Except Fault Table := do
  let schema ← (Schema.ofAttributes draft.attributes).mapError Fault.repeatedName
  (Table.ofRows draft.name schema draft.rows).mapError Fault.row

/-- Build and register tables in order, stopping at the first fault. -/
def TableDraft.register (catalog : Catalog) : List TableDraft → Except Fault Catalog
  | [] => .ok catalog
  | draft :: rest => do
      let table ← draft.build
      let catalog ← (catalog.add table).mapError Fault.catalog
      register catalog rest

/-- A successful write. -/
inductive Write
  | append (table : Option String) (row : Row)
  | overwrite (table : Option String) (rows : List Row)
  deriving DecidableEq, Repr

/-- The described tables, how writes fail at present, and the successful writes so far. -/
structure Journal where
  drafts : List TableDraft
  appendFault : Option WriteFault := none
  overwriteFault : Option WriteFault := none
  writes : List Write := []

namespace Journal

/-- Note a write unless it is to fail. -/
def note (journal : Journal) (fault : Option WriteFault) (write : Write) : WriteReport Journal :=
  match fault with
  | some fault => ⟨.error fault, []⟩
  | none => ⟨.ok { journal with writes := journal.writes ++ [write] }, []⟩

/-- The gateway to a journal. -/
def gateway : Gateway Journal where
  load journal := ⟨TableDraft.register {} journal.drafts, []⟩
  append table row journal := journal.note journal.appendFault (.append table.name row)
  overwrite table journal := journal.note journal.overwriteFault (.overwrite table.name table.rows)

end Journal
end Storage
end FlatTables
