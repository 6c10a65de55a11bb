import FlatTables.Proofs.Storage.LoadFault
import FlatTables.Proofs.Storage.Loading

/-!
# Registration

Tables are registered one by one, and an attempt that fails leaves the catalog as it is. Of all tables
whose names fold to one, the first is registered, and so every spelling of a name leads to at most one
table. A folder registers the tables of its schema file, and none of them is refused: whatever repeats
a name is found when the schema file is read.
-/

namespace FlatTables
namespace Catalog

/-! ## Attempts -/

/-- The catalog after an attempt to register a table. -/
def afterAdd (catalog : Catalog) (table : Table) : Catalog :=
  match catalog.add table with
  | .ok after => after
  | .error _ => catalog

/-- The catalog after attempts to register tables in order. -/
def afterAdds (catalog : Catalog) (tables : List Table) : Catalog :=
  tables.foldl afterAdd catalog

/-- An attempt fails exactly if the table has no name, or a table goes by its name. -/
theorem add_eq_error_iff
    (catalog : Catalog)
    (table : Table)
    (fault : CatalogFault) :
    catalog.add table = .error fault ↔
      (table.name = none ∧ fault = .unnamed) ∨
        ∃ name, table.name = some name ∧ ¬ catalog.Lacks name ∧ fault = .nameTaken name := by
  unfold add contains
  cases table.name with
  | none => simp [eq_comm]
  | some name =>
      simp only [← find?_eq_none_iff]
      cases found : catalog.find? name with
      | none => simp [found]
      | some other => simpa [found] using eq_comm

section
variable
  {catalog : Catalog}
  (table : Table)

/-- An attempt that fails leaves the catalog as it is. -/
theorem afterAdd_of_refused
    {table : Table}
    {fault : CatalogFault}
    (refused : catalog.add table = .error fault) :
    catalog.afterAdd table = catalog := by
  rw [afterAdd, refused]

/-- After an attempt, the table is the last one, or the catalog is as it was. -/
theorem tables_afterAdd :
    (catalog.afterAdd table).tables = catalog.tables ++ [table] ∨
      catalog.afterAdd table = catalog := by
  unfold afterAdd
  cases added : catalog.add table with
  | error fault => exact .inr rfl
  | ok after =>
      obtain ⟨name, _, _, tables⟩ := (add_eq_ok_iff catalog after table).1 added
      exact .inl tables

/-- An attempt keeps all names apart. -/
theorem Keyed.afterAdd (keyed : catalog.Keyed) : (catalog.afterAdd table).Keyed := by
  unfold Catalog.afterAdd
  cases added : catalog.add table with
  | error fault => exact keyed
  | ok after => exact (keyed.add added).1

/-- After an attempt, a name leads where it led, or else to the table if the table goes by it. -/
theorem find?_afterAdd (name : String) :
    (catalog.afterAdd table).find? name =
      (catalog.find? name).or (if table.isCalled name then some table else none) := by
  unfold afterAdd
  cases added : catalog.add table with
  | ok after =>
      obtain ⟨own, _, _, tables⟩ := (add_eq_ok_iff catalog after table).1 added
      rw [find?, tables, List.find?_append, List.find?_singleton, find?]
  | error fault =>
      rcases (add_eq_error_iff catalog table fault).1 added with ⟨unnamed, _⟩ | ⟨own, named, taken, _⟩
      · simp [Table.isCalled, unnamed]
      · by_cases called : table.isCalled name = true
        · have sameFold : Text.fold own = Text.fold name := by
            simpa [Table.isCalled, named] using called
          have sameFind : catalog.find? name = catalog.find? own := by
            simp only [find?, Table.isCalled, sameFold]
          rw [← find?_eq_none_iff] at taken
          obtain ⟨other, found⟩ := Option.ne_none_iff_exists'.1 taken
          rw [sameFind, found, Option.some_or]
        · simp [called]

/-! ## Sequences of attempts -/

variable (tables : List Table)

/-- Attempts keep all names apart. -/
theorem Keyed.afterAdds (keyed : catalog.Keyed) : (catalog.afterAdds tables).Keyed := by
  induction tables generalizing catalog with
  | nil => exact keyed
  | cons table rest inductionHypothesis => exact inductionHypothesis (keyed.afterAdd table)

/-- The tables that are registered come behind those before them, in the order of the attempts. -/
theorem tables_afterAdds :
    ∃ registered, (catalog.afterAdds tables).tables = catalog.tables ++ registered ∧
      registered.Sublist tables := by
  induction tables generalizing catalog with
  | nil => exact ⟨[], (List.append_nil _).symm, .slnil⟩
  | cons table rest inductionHypothesis =>
      obtain ⟨registered, others, sublist⟩ := @inductionHypothesis (catalog.afterAdd table)
      change ∃ own, ((catalog.afterAdd table).afterAdds rest).tables = _ ∧ _
      rcases tables_afterAdd table with added | refused
      · refine ⟨table :: registered, ?_, sublist.cons_cons table⟩
        rw [others, added, List.append_assoc, List.singleton_append]
      · exact ⟨registered, by rw [others, refused], sublist.cons table⟩

/-- After attempts, a name leads where it led before them, or else to the first of the tables that go
by it. -/
theorem find?_afterAdds (name : String) :
    (catalog.afterAdds tables).find? name =
      (catalog.find? name).or (tables.find? (·.isCalled name)) := by
  induction tables generalizing catalog with
  | nil => exact (Option.or_none).symm
  | cons table rest inductionHypothesis =>
      change ((catalog.afterAdd table).afterAdds rest).find? name = _
      rw [inductionHypothesis, find?_afterAdd, Option.or_assoc, List.find?_cons]
      cases table.isCalled name <;> rfl

end

/-! ## Look-up -/

/-- Every table is registered once and under a name of its own, and every spelling of a name leads to
the one table that goes by it, or to none. -/
structure Indexed (catalog : Catalog) : Prop where
  distinct : (catalog.names.map Text.fold).Nodup
  names : catalog.names.map some = catalog.tables.map Table.name
  once : catalog.tables.Nodup
  resolves : ∀ name table, catalog.resolve name = .ok table ↔
    table ∈ catalog.tables ∧ table.name.map Text.fold = some (Text.fold name)
  contains : ∀ name, catalog.contains name = true ↔ ∃ table, catalog.resolve name = .ok table
  otherwise : ∀ name, catalog.contains name = false →
    catalog.resolve name = .error (.tableNotFound name)

/-- If all tables have names of their own, spellings of names are looked up as they should. -/
theorem Keyed.indexed
    {catalog : Catalog}
    (keyed : catalog.Keyed) :
    catalog.Indexed := by
  have names : catalog.names.map some = catalog.tables.map Table.name := by
    rw [Catalog.names, List.map_filterMap, ← List.filterMap_eq_map]
    refine List.filterMap_congr fun table member => ?_
    obtain ⟨name, named⟩ := Option.isSome_iff_exists.1 (keyed.named table member)
    rw [named, Option.map_some, Function.comp_apply, named]
  have folds : (catalog.names.map Text.fold).map some =
      catalog.tables.map fun table => table.name.map Text.fold := by
    have mapped := congrArg (List.map (Option.map Text.fold)) names
    simpa [Function.comp_def] using mapped
  refine ⟨?_, names, keyed.distinct.of_map, ?_, ?_, ?_⟩
  · apply List.Nodup.of_map some
    rw [folds]
    exact keyed.distinct
  · intro name table
    rw [resolve_eq_ok_iff, keyed.find?_eq_some_iff, Table.isCalled_iff]
  · intro name
    simp only [resolve_eq_ok_iff, Catalog.contains, Option.isSome_iff_exists]
  · intro name absent
    have lacking : catalog.find? name = none := by
      simpa [Catalog.contains] using absent
    rw [resolve, lacking]

end Catalog

namespace Storage.Folder

/-- No table of a folder is refused when it is registered. -/
theorem load_ne_catalog_fault
    (folder : Folder)
    (workspace : Workspace)
    (fault : CatalogFault) :
    (folder.load workspace).result ≠ .error (.catalog fault) := by
  intro failed
  rcases load_eq_error failed with escapes | ⟨own, same, _⟩
  · rcases escapes with escapes | ⟨_, escapes⟩ <;> cases escapes
  · cases same

end Storage.Folder

open Storage (Folder Workspace)

/-- Whatever tables are registered from the empty catalog on, named or not, one after the other,
every spelling of a name leads to the first of those that go by it, and all that are registered stand
in the order of their registration. An attempt fails exactly if the table has no name or its name is
taken, and then it changes nothing. A folder never fails to register a table, and its tables stand in
the order of its schema file. -/
theorem registration_indexes_tables :
    (∀ attempts : List Table,
      let catalog := Catalog.afterAdds {} attempts
      catalog.Indexed ∧ catalog.tables.Sublist attempts ∧
      (∀ name, catalog.find? name = attempts.find? (·.isCalled name)) ∧
      ∀ table : Table,
        (∀ after, catalog.add table = .ok after ↔
          ∃ name, table.name = some name ∧ catalog.Lacks name ∧
            after.tables = catalog.tables ++ [table]) ∧
        (∀ fault, catalog.add table = .error fault ↔
          (table.name = none ∧ fault = .unnamed) ∨
            ∃ name, table.name = some name ∧ ¬ catalog.Lacks name ∧ fault = .nameTaken name) ∧
        ∀ fault, catalog.add table = .error fault →
          Catalog.afterAdds {} (attempts ++ [table]) = catalog) ∧
    ∀ (folder : Folder) (workspace : Workspace),
      (∀ fault, (folder.load workspace).result ≠ .error (.catalog fault)) ∧
      ∀ catalog, (folder.load workspace).result = .ok catalog →
        catalog.Indexed ∧ ∃ schemas, folder.readSchemas workspace = .ok schemas ∧
          catalog.names = schemas.map Prod.fst ∧
          (catalog.tables.map fun table => (table.name, table.schema)) =
            schemas.map fun named => (some named.1, named.2) := by
  refine ⟨fun attempts => ?_, fun folder workspace => ⟨?_, fun catalog loaded => ?_⟩⟩
  · obtain ⟨registered, tables, sublist⟩ := @Catalog.tables_afterAdds {} attempts
    refine ⟨(Catalog.sound_empty.keyed.afterAdds attempts).indexed, ?_, ?_, fun table => ?_⟩
    · rw [tables]
      exact sublist
    · intro name
      rw [Catalog.find?_afterAdds]
      exact Option.none_or
    · refine ⟨fun after => Catalog.add_eq_ok_iff _ after table,
        Catalog.add_eq_error_iff _ table, fun fault refused => ?_⟩
      rw [Catalog.afterAdds, List.foldl_append]
      exact Catalog.afterAdd_of_refused refused
  · exact folder.load_ne_catalog_fault workspace
  · obtain ⟨sound, schemas, read, loads⟩ := Folder.load_eq_ok loaded
    exact ⟨sound.keyed.indexed, schemas, read, Folder.names_of_loads loads,
      Folder.map_tables_of_loads loads⟩

/-- In a folder with a table whose name has a letter that folds to two, other spellings of the name
lead to it, and a name that lacks one of these letters leads nowhere. -/
theorem registration_indexes_tables_sample :
    let folder : Folder := ⟨.ofString "db", "schema.txt", ".csv"⟩
    let workspace : Workspace :=
      { entries := [(["db"], .directory),
          (["db", "schema.txt"], .file "Straße(a:Text)\nb(c:Integer)\n".toUTF8)] }
    ∃ catalog, (folder.load workspace).result = .ok catalog ∧
      catalog.names = ["Straße", "b"] ∧
      (∃ table, catalog.resolve "STRASSE" = .ok table ∧ table.name = some "Straße") ∧
      catalog.resolve "Strase" = .error (.tableNotFound "Strase") := by
  intro folder workspace
  have tables : (folder.load workspace).result.toOption.map Catalog.tables =
      some [⟨some "Straße", ⟨[⟨"a", .text⟩], by decide⟩, []⟩,
        ⟨some "b", ⟨[⟨"c", .integer⟩], by decide⟩, []⟩] := by
    decide +kernel
  obtain ⟨_, loads⟩ := registration_indexes_tables
  cases result : (folder.load workspace).result with
  | error fault =>
      rw [result] at tables
      cases tables
  | ok catalog =>
      obtain ⟨indexed, _⟩ := (loads folder workspace).2 catalog result
      rw [result] at tables
      have tablesEq := Option.some.inj tables
      refine ⟨catalog, rfl, ?_, ⟨⟨some "Straße", ⟨[⟨"a", .text⟩], by decide⟩, []⟩, ?_, rfl⟩, ?_⟩
      · apply List.map_injective_iff.2 (Option.some_injective String)
        rw [indexed.names, tablesEq]
        rfl
      · rw [indexed.resolves, tablesEq]
        exact ⟨List.mem_cons_self, by decide +kernel⟩
      · apply indexed.otherwise
        rw [Bool.eq_false_iff]
        intro present
        obtain ⟨table, resolved⟩ := (indexed.contains "Strase").1 present
        rw [indexed.resolves, tablesEq] at resolved
        obtain ⟨member, called⟩ := resolved
        revert called
        simp only [List.mem_cons, List.not_mem_nil, or_false] at member
        rcases member with rfl | rfl <;> decide +kernel

end FlatTables
