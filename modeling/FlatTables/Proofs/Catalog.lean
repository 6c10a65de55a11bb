import FlatTables.Catalog
import FlatTables.Proofs.Schema
import Mathlib.Data.List.Nodup

/-!
# Sound catalogs

Registering tables one by one keeps a catalog sound: every table has a name, no two names fold to
one, and all rows conform to their schemas. In a sound catalog a name belongs to at most one
table, so putting a new version of a table in place of the old one changes that table only.
-/

namespace FlatTables

/-! ## Tables -/

namespace Table

theorem checkAll_eq_ok_iff
    (schema : Schema)
    (rows : List Row) :
    checkAll schema rows = .ok () ↔ ∀ row ∈ rows, row.Conforms schema := by
  induction rows with
  | nil => simp [checkAll]
  | cons row rest inductionHypothesis =>
      cases checked : row.check schema with
      | error fault =>
          have differs : ¬ row.Conforms schema := by simp [← Row.check_eq_ok_iff, checked]
          simp [checkAll, checked, differs]
      | ok done =>
          have conforms : row.Conforms schema := (row.check_eq_ok_iff schema).1 checked
          simp [checkAll, checked, conforms, inductionHypothesis]

theorem append_eq_ok_iff
    (table after : Table)
    (row : Row) :
    table.append row = .ok after ↔
      row.Conforms table.schema ∧ after = { table with rows := table.rows ++ [row] } := by
  rw [append, ← Row.check_eq_ok_iff]
  cases row.check table.schema <;> simp [Except.map, eq_comm]

theorem replaceRows_eq_ok_iff
    (table after : Table)
    (rows : List Row) :
    table.replaceRows rows = .ok after ↔
      (∀ row ∈ rows, row.Conforms table.schema) ∧ after = { table with rows } := by
  rw [replaceRows, ← checkAll_eq_ok_iff]
  cases checkAll table.schema rows <;> simp [Except.map, eq_comm]

theorem ofRows_eq_ok_iff
    (name : Option String)
    (schema : Schema)
    (rows : List Row)
    (table : Table) :
    ofRows name schema rows = .ok table ↔
      (∀ row ∈ rows, row.Conforms schema) ∧ table = { name, schema, rows } :=
  replaceRows_eq_ok_iff _ _ _

/-- A table built from rows is conforming. -/
theorem ofRows_eq_ok
    {name : Option String}
    {schema : Schema}
    {rows : List Row}
    {table : Table}
    (built : ofRows name schema rows = .ok table) :
    table.Conforming ∧ table = { name, schema, rows } := by
  obtain ⟨conforming, rfl⟩ := (ofRows_eq_ok_iff name schema rows table).1 built
  exact ⟨conforming, rfl⟩

/-- The table goes by a name exactly if its own name has the same folding. -/
theorem isCalled_iff
    (table : Table)
    (name : String) :
    table.isCalled name = true ↔ table.name.map Text.fold = some (Text.fold name) := by
  cases own : table.name <;> simp [isCalled, own]

end Table

/-! ## Catalogs -/

namespace Catalog

/-- Every table has a name, all rows conform to their schemas, and no two names fold to one. -/
structure Sound (catalog : Catalog) : Prop where
  named : ∀ table ∈ catalog.tables, table.name.isSome
  conforming : ∀ table ∈ catalog.tables, table.Conforming
  distinct : (catalog.tables.map fun table => table.name.map Text.fold).Nodup

/-- Every table has a name, and no two names fold to one; nothing is said of the rows. -/
structure Keyed (catalog : Catalog) : Prop where
  named : ∀ table ∈ catalog.tables, table.name.isSome
  distinct : (catalog.tables.map fun table => table.name.map Text.fold).Nodup

theorem Sound.keyed
    {catalog : Catalog}
    (sound : catalog.Sound) :
    catalog.Keyed :=
  ⟨sound.named, sound.distinct⟩

/-- The empty catalog is sound. -/
theorem sound_empty : Sound {} :=
  ⟨by simp, by simp, by simp⟩

theorem mem_of_find?
    {catalog : Catalog}
    {name : String}
    {table : Table}
    (found : catalog.find? name = some table) :
    table ∈ catalog.tables :=
  List.mem_of_find?_eq_some found

theorem isCalled_of_find?
    {catalog : Catalog}
    {name : String}
    {table : Table}
    (found : catalog.find? name = some table) :
    table.isCalled name = true := by
  simpa using List.find?_some found

/-- The names of the tables depend on nothing else of them. -/
theorem names_eq_filterMap (catalog : Catalog) :
    catalog.names = (catalog.tables.map Table.name).filterMap id := by
  rw [names, List.filterMap_map, Function.id_comp]

/-- No table goes by the name, in any case. -/
def Lacks (catalog : Catalog) (name : String) : Prop :=
  ∀ table ∈ catalog.tables, table.name.map Text.fold ≠ some (Text.fold name)

theorem find?_eq_none_iff
    (catalog : Catalog)
    (name : String) :
    catalog.find? name = none ↔ catalog.Lacks name := by
  simp only [find?, List.find?_eq_none, Table.isCalled_iff, Lacks, ne_eq]

theorem resolve_eq_ok_iff
    (catalog : Catalog)
    (name : String)
    (table : Table) :
    catalog.resolve name = .ok table ↔ catalog.find? name = some table := by
  unfold resolve
  cases catalog.find? name <;> simp

section
variable
  {catalog : Catalog}
  (keyed : catalog.Keyed)
include keyed

/-- Tables whose names fold to one are the same table. -/
theorem Keyed.eq_of_fold_eq
    {left right : Table}
    (leftMember : left ∈ catalog.tables)
    (rightMember : right ∈ catalog.tables)
    (sameName : left.name.map Text.fold = right.name.map Text.fold) :
    left = right :=
  List.inj_on_of_nodup_map keyed.distinct leftMember rightMember sameName

/-- A name leads to the only table that goes by it. -/
theorem Keyed.eq_of_isCalled
    {name : String}
    {table other : Table}
    (found : catalog.find? name = some table)
    (member : other ∈ catalog.tables)
    (called : other.isCalled name = true) :
    other = table := by
  refine keyed.eq_of_fold_eq member (mem_of_find? found) ?_
  rw [(other.isCalled_iff name).1 called,
    (table.isCalled_iff name).1 (isCalled_of_find? found)]

/-- A table that goes by a name is the one the name leads to. -/
theorem Keyed.find?_eq_some_iff
    (name : String)
    (table : Table) :
    catalog.find? name = some table ↔ table ∈ catalog.tables ∧ table.isCalled name = true := by
  refine ⟨fun found => ⟨mem_of_find? found, isCalled_of_find? found⟩, ?_⟩
  rintro ⟨member, called⟩
  cases found : catalog.find? name with
  | none => exact absurd called (by simpa using List.find?_eq_none.1 found table member)
  | some other => rw [keyed.eq_of_isCalled found member called]

end

/-- In a sound catalog, tables whose names fold to one are the same table. -/
theorem Sound.eq_of_fold_eq
    {catalog : Catalog}
    (sound : catalog.Sound)
    {left right : Table}
    (leftMember : left ∈ catalog.tables)
    (rightMember : right ∈ catalog.tables)
    (sameName : left.name.map Text.fold = right.name.map Text.fold) :
    left = right :=
  sound.keyed.eq_of_fold_eq leftMember rightMember sameName

/-- In a sound catalog, a name leads to the only table that goes by it. -/
theorem Sound.eq_of_isCalled
    {catalog : Catalog}
    (sound : catalog.Sound)
    {name : String}
    {table other : Table}
    (found : catalog.find? name = some table)
    (member : other ∈ catalog.tables)
    (called : other.isCalled name = true) :
    other = table :=
  sound.keyed.eq_of_isCalled found member called

/-- In a sound catalog, a table that goes by a name is the one the name leads to. -/
theorem Sound.find?_eq_some_iff
    {catalog : Catalog}
    (sound : catalog.Sound)
    (name : String)
    (table : Table) :
    catalog.find? name = some table ↔ table ∈ catalog.tables ∧ table.isCalled name = true :=
  sound.keyed.find?_eq_some_iff name table

/-- The names of a sound catalog lead to its tables, in order. -/
theorem Sound.map_find?_names
    {catalog : Catalog}
    (sound : catalog.Sound) :
    catalog.names.map catalog.find? = catalog.tables.map some := by
  rw [names, List.map_filterMap, ← List.filterMap_eq_map]
  refine List.filterMap_congr fun table member => ?_
  obtain ⟨name, named⟩ := Option.isSome_iff_exists.1 (sound.named table member)
  have found : catalog.find? name = some table :=
    (sound.find?_eq_some_iff name table).2 ⟨member, by simp [Table.isCalled, named]⟩
  rw [named, Option.map_some, found, Function.comp_apply]

/-- Sound catalogs are equal if they have the same names and these lead to the same tables. -/
theorem Sound.ext
    {left right : Catalog}
    (leftSound : left.Sound)
    (rightSound : right.Sound)
    (sameNames : left.names = right.names)
    (sameTables : ∀ name ∈ left.names, left.find? name = right.find? name) :
    left = right := by
  have tables : left.tables.map some = right.tables.map some := by
    rw [← leftSound.map_find?_names, ← rightSound.map_find?_names, ← sameNames]
    exact List.map_congr_left sameTables
  rw [Catalog.mk.injEq]
  exact List.map_injective_iff.2 (fun _ _ => Option.some.inj) tables

/-- In a sound catalog, names that fold to one are the same name. -/
theorem Sound.name_eq_of_fold_eq
    {catalog : Catalog}
    (sound : catalog.Sound)
    {name other : String}
    (member : name ∈ catalog.names)
    (otherMember : other ∈ catalog.names)
    (sameFold : Text.fold name = Text.fold other) :
    name = other := by
  obtain ⟨table, inTables, named⟩ := List.mem_filterMap.1 member
  obtain ⟨otherTable, otherInTables, otherNamed⟩ := List.mem_filterMap.1 otherMember
  have same := sound.eq_of_fold_eq inTables otherInTables (by simp [named, otherNamed, sameFold])
  rw [same, otherNamed] at named
  exact (Option.some.inj named).symm

/-- A table that is found has its name among the names of a sound catalog. -/
theorem Sound.exists_name
    {catalog : Catalog}
    (sound : catalog.Sound)
    {name : String}
    {table : Table}
    (found : catalog.find? name = some table) :
    ∃ own ∈ catalog.names, table.name = some own ∧ Text.fold own = Text.fold name := by
  have member := mem_of_find? found
  obtain ⟨own, named⟩ := Option.isSome_iff_exists.1 (sound.named table member)
  have folded := (table.isCalled_iff name).1 (isCalled_of_find? found)
  rw [named] at folded
  exact ⟨own, List.mem_filterMap.2 ⟨table, member, named⟩, named, Option.some.inj folded⟩

/-- A table can be registered exactly if it has a name and no table goes by it, and then it is the
last. -/
theorem add_eq_ok_iff
    (catalog after : Catalog)
    (table : Table) :
    catalog.add table = .ok after ↔
      ∃ name, table.name = some name ∧ catalog.Lacks name ∧
        after.tables = catalog.tables ++ [table] := by
  obtain ⟨tables⟩ := after
  unfold add contains
  cases table.name with
  | none => simp
  | some name =>
      simp only [← find?_eq_none_iff]
      cases found : catalog.find? name with
      | none => simp [found, eq_comm]
      | some other => simp [found]

/-- Registering a table keeps all names apart. -/
theorem Keyed.add
    {catalog after : Catalog}
    (keyed : catalog.Keyed)
    {table : Table}
    (added : catalog.add table = .ok after) :
    after.Keyed ∧ after.tables = catalog.tables ++ [table] := by
  obtain ⟨name, own, lacks, tables⟩ := (add_eq_ok_iff catalog after table).1 added
  refine ⟨⟨?_, ?_⟩, tables⟩
  · intro other member
    rw [tables] at member
    rcases List.mem_append.1 member with old | new
    · exact keyed.named other old
    · simp [List.mem_singleton.1 new, own]
  · rw [tables]
    simpa [List.nodup_append, keyed.distinct, own, Lacks] using lacks

/-- Registering a conforming table keeps a catalog sound. -/
theorem Sound.add
    {catalog after : Catalog}
    (sound : catalog.Sound)
    {table : Table}
    (conforming : table.Conforming)
    (added : catalog.add table = .ok after) :
    after.Sound ∧ after.tables = catalog.tables ++ [table] := by
  obtain ⟨keyed, tables⟩ := sound.keyed.add added
  refine ⟨⟨keyed.named, ?_, keyed.distinct⟩, tables⟩
  intro other member
  rw [tables] at member
  rcases List.mem_append.1 member with old | new
  · exact sound.conforming other old
  · exact List.mem_singleton.1 new ▸ conforming

/-! ## Conforming catalogs -/

/-- All rows conform to the schemas of their tables; nothing is said of the names. -/
def Conforming (catalog : Catalog) : Prop :=
  ∀ table ∈ catalog.tables, table.Conforming

/-- What a name leads to in a conforming catalog, it leads to in some sound catalog too. -/
theorem Conforming.exists_sound
    {catalog : Catalog}
    (conforming : catalog.Conforming)
    (name : String) :
    ∃ own : Catalog, own.Sound ∧ own.find? name = catalog.find? name := by
  cases found : catalog.find? name with
  | none => exact ⟨{}, sound_empty, rfl⟩
  | some table =>
      have called := isCalled_of_find? found
      have named : table.name.isSome := by
        rw [Table.isCalled_iff] at called
        cases own : table.name <;> simp_all
      refine ⟨⟨[table]⟩, ⟨?_, ?_, ?_⟩, ?_⟩
      · simpa using named
      · simpa using conforming table (mem_of_find? found)
      · simp
      · simp [find?, called]

/-- A conforming table in place of another keeps all rows conforming. -/
theorem Conforming.update
    {catalog : Catalog}
    (conforming : catalog.Conforming)
    {table : Table}
    (tableConforming : table.Conforming)
    (name : String) :
    (catalog.update name table).Conforming := by
  intro other member
  obtain ⟨old, oldMember, rfl⟩ := List.mem_map.1 member
  by_cases called : old.isCalled name = true
  · rw [if_pos called]
    exact tableConforming
  · rw [if_neg called]
    exact conforming old oldMember

/-! ## Edits -/

/-- Change the rows of the table that goes by a name. -/
def edit (catalog : Catalog) (name : String) (change : List Row → List Row) : Catalog where
  tables := catalog.tables.map fun table =>
    if table.isCalled name then { table with rows := change table.rows } else table

/-- The name of a new version leads to the tables that go by the name of the old one. -/
private theorem isCalled_newVersion
    {catalog : Catalog}
    {name : String}
    {old table : Table}
    (found : catalog.find? name = some old)
    (sameName : table.name = old.name)
    (other : Table) :
    other.isCalled (table.name.getD "") = other.isCalled name := by
  have called := (old.isCalled_iff name).1 (isCalled_of_find? found)
  have ownName : Text.fold (table.name.getD "") = Text.fold name := by
    rw [sameName]
    cases own : old.name <;> simp_all
  rw [Table.isCalled, Table.isCalled, ownName]

/-- In a sound catalog, a new version of a found table under its own name edits that table. -/
theorem Sound.update_eq_edit
    {catalog : Catalog}
    (sound : catalog.Sound)
    {name : String}
    {table : Table}
    (found : catalog.find? name = some table)
    (change : List Row → List Row) :
    catalog.update (table.name.getD "") { table with rows := change table.rows } =
      catalog.edit name change := by
  simp only [update, edit, Catalog.mk.injEq]
  refine List.map_congr_left fun other member => ?_
  rw [isCalled_newVersion found rfl]
  by_cases otherCalled : other.isCalled name = true
  · rw [if_pos otherCalled, if_pos otherCalled, sound.eq_of_isCalled found member otherCalled]
  · rw [if_neg otherCalled, if_neg otherCalled]

/-- Editing a table with conforming rows keeps a catalog sound. -/
theorem Sound.edit
    {catalog : Catalog}
    (sound : catalog.Sound)
    {name : String}
    {change : List Row → List Row}
    (keeps : ∀ table ∈ catalog.tables, table.isCalled name = true →
      ∀ row ∈ change table.rows, row.Conforms table.schema) :
    (catalog.edit name change).Sound := by
  have edited : ∀ table : Table,
      (if table.isCalled name then { table with rows := change table.rows } else table).name =
        table.name := by
    intro table
    split <;> rfl
  refine ⟨?_, ?_, ?_⟩
  · intro table member
    obtain ⟨old, oldMember, rfl⟩ := List.mem_map.1 member
    rw [edited]
    exact sound.named old oldMember
  · intro table member
    obtain ⟨old, oldMember, rfl⟩ := List.mem_map.1 member
    by_cases called : old.isCalled name = true
    · rw [if_pos called]
      exact keeps old oldMember called
    · rw [if_neg called]
      exact sound.conforming old oldMember
  · simpa [Catalog.edit, Function.comp_def, edited] using sound.distinct

/-! ## New versions of a table -/

section
variable
  {catalog : Catalog}
  {name : String}
  {old table : Table}
  (found : catalog.find? name = some old)
  (sameName : table.name = old.name)
include found sameName

/-- Only the last of two new versions of a table counts. -/
theorem update_update (later : Table) :
    (catalog.update (table.name.getD "") table).update (table.name.getD "") later =
      catalog.update (table.name.getD "") later := by
  have called : table.isCalled name = true := by
    rw [Table.isCalled, sameName]
    exact isCalled_of_find? found
  simp only [update, isCalled_newVersion found sameName, List.map_map, Catalog.mk.injEq]
  refine List.map_congr_left fun own _ => ?_
  by_cases ownCalled : own.isCalled name = true
  · simp [Function.comp_apply, ownCalled, called]
  · simp [Function.comp_apply, ownCalled]

/-- A new version of a found table is found under the same names, and nothing else changes. -/
theorem find?_update (other : String) :
    (catalog.update (table.name.getD "") table).find? other =
      if Text.fold other = Text.fold name then some table else catalog.find? other := by
  have called : table.name.map Text.fold = some (Text.fold name) := by
    rw [sameName]
    exact (old.isCalled_iff name).1 (isCalled_of_find? found)
  have sameCalls : ∀ own : Table,
      (if own.isCalled name then table else own).isCalled other = own.isCalled other := by
    intro own
    by_cases ownCalled : own.isCalled name = true
    · have ownName := (own.isCalled_iff name).1 ownCalled
      rw [if_pos ownCalled, Bool.eq_iff_iff, Table.isCalled_iff, Table.isCalled_iff, called,
        ownName]
    · rw [if_neg ownCalled]
  simp only [find?, update, isCalled_newVersion found sameName, List.find?_map, Function.comp_def,
    sameCalls]
  by_cases same : Text.fold other = Text.fold name
  · have calls : ∀ own : Table, own.isCalled other = own.isCalled name := by
      intro own
      rw [Table.isCalled, Table.isCalled, same]
    have foundAgain : catalog.tables.find? (·.isCalled name) = some old := found
    simp only [calls, foundAgain, if_pos same, Option.map_some, isCalled_of_find? found, if_true]
  · rw [if_neg same]
    cases there : catalog.tables.find? (·.isCalled other) with
    | none => rfl
    | some own =>
        have uncalled : ¬ own.isCalled name = true := by
          intro ownCalled
          have here := List.find?_some there
          rw [Table.isCalled_iff] at here ownCalled
          exact same (Option.some.inj (here.symm.trans ownCalled))
        rw [Option.map_some, if_neg uncalled]

/-- In a sound catalog, a new version of a table leaves the list of names as it is. -/
theorem Sound.names_update (sound : catalog.Sound) :
    (catalog.update (table.name.getD "") table).tables.map Table.name =
      catalog.tables.map Table.name := by
  simp only [update, isCalled_newVersion found sameName, List.map_map]
  refine List.map_congr_left fun own member => ?_
  by_cases called : own.isCalled name = true
  · rw [Function.comp_apply, if_pos called, sound.eq_of_isCalled found member called, sameName]
  · rw [Function.comp_apply, if_neg called]

/-- A conforming new version of a table keeps a catalog sound. -/
theorem Sound.update
    (sound : catalog.Sound)
    (conforming : table.Conforming) :
    (catalog.update (table.name.getD "") table).Sound := by
  have names := sound.names_update found sameName
  refine ⟨?_, Conforming.update sound.conforming conforming _, ?_⟩
  · intro own member
    have inNames : own.name ∈ catalog.tables.map Table.name :=
      names ▸ List.mem_map_of_mem member
    obtain ⟨before, beforeMember, nameEq⟩ := List.mem_map.1 inNames
    exact nameEq ▸ sound.named before beforeMember
  · have folded := congrArg (List.map (Option.map Text.fold)) names
    rw [List.map_map, List.map_map] at folded
    change List.Nodup (List.map (Option.map Text.fold ∘ Table.name) _)
    rw [folded]
    exact sound.distinct

end

end Catalog
end FlatTables
