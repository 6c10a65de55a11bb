import FlatTables.Engine.Plan
import FlatTables.Proofs.Catalog
import FlatTables.Proofs.Condition

/-!
# What plans do

A plan made on a sound catalog returns the rows that meet the condition, adds one storable row, or
keeps the rows that do not meet the condition. No other fault than a rejection can come up while a
statement is planned, so every statement is either planned or rejected.
-/

namespace FlatTables
namespace Engine
namespace Plan

open Query (Columns Statement)

theorem orReject_eq_ok_iff
    {step : Except Rejection α}
    {value : α} :
    orReject step = .ok value ↔ step = .ok value :=
  mapError_eq_ok_iff

theorem orReject_of_error
    {step : Except Rejection α}
    {rejection : Rejection}
    (failed : step = .error rejection) :
    orReject step = .error (.rejected rejection) := by
  rw [failed]
  rfl

/-- The fault is the rejection of a statement. -/
def Rejecting (fault : Fault) : Prop :=
  ∃ rejection, fault = .rejected rejection

theorem rejecting_of_orReject
    {step : Except Rejection α}
    {fault : Fault}
    (failed : orReject step = .error fault) :
    Rejecting fault := by
  obtain ⟨rejection, _, rfl⟩ := mapError_eq_error_iff.1 failed
  exact ⟨rejection, rfl⟩

theorem resolve_of_find?
    {catalog : Catalog}
    {name : String}
    {table : Table}
    (found : catalog.find? name = some table) :
    orReject (catalog.resolve name) = .ok table :=
  orReject_eq_ok_iff.2 ((catalog.resolve_eq_ok_iff name table).2 found)

/-! ## Conditions over many rows -/

/-- A row is selected by an optional condition: every row is, if there is none. -/
def selects (condition : Option Condition) (schema : Schema) (row : Row) : Bool :=
  condition.all fun condition => condition.isMetBy schema row

theorem meets_eq_selects
    {condition : Option Condition}
    {schema : Schema}
    {bound : Option BoundCondition}
    (binds : bindWhere condition schema = .ok bound)
    {row : Row}
    (conforms : row.Conforms schema) :
    meets bound row = .ok (selects condition schema row) := by
  cases condition with
  | none =>
      cases binds
      rfl
  | some condition =>
      obtain ⟨own, ownBind, rfl⟩ := map_eq_ok_iff.1 binds
      simp [meets, selects, Condition.holds_eq_isMetBy ownBind conforms]

/-- Rows of a table are sifted into those that are selected and the others, both in order. -/
theorem sift_eq
    {condition : Option Condition}
    {schema : Schema}
    {bound : Option BoundCondition}
    (binds : bindWhere condition schema = .ok bound)
    {rows : List Row}
    (conforming : ∀ row ∈ rows, row.Conforms schema) :
    sift bound rows =
      .ok (rows.filter (selects condition schema), rows.filter (!selects condition schema ·)) := by
  induction rows with
  | nil => rfl
  | cons row rest inductionHypothesis =>
      have met := meets_eq_selects binds (conforming row (by simp))
      have others := inductionHypothesis fun other member =>
        conforming other (List.mem_cons_of_mem row member)
      cases selected : selects condition schema row <;>
        simp [sift, met, others, selected, bind, Except.bind, pure, Except.pure]

/-! ## Projections -/

/-- The position of a name is looked up, or the name is rejected. -/
theorem ordinals_cons
    (schema : Schema)
    (name : String)
    (rest : List String) :
    ordinals schema (name :: rest) =
      match schema.indexOf? name with
      | none => .error (.unknownAttribute name)
      | some position => (ordinals schema rest).map (position :: ·) := by
  simp only [ordinals, Schema.ordinal]
  cases schema.indexOf? name with
  | none => rfl
  | some position => cases ordinals schema rest <;> rfl

/-- Names have positions exactly if all of them are in the schema. -/
theorem exists_ordinals_iff
    (schema : Schema)
    (names : List String) :
    (∃ positions, ordinals schema names = .ok positions) ↔ ∀ name ∈ names, name ∈ schema.names := by
  induction names with
  | nil => simp [ordinals]
  | cons name rest inductionHypothesis =>
      rw [ordinals_cons, List.forall_mem_cons, ← inductionHypothesis]
      cases index : schema.indexOf? name with
      | none => simp [(schema.indexOf?_eq_none_iff name).1 index]
      | some position =>
          have member : name ∈ schema.names := by
            by_contra absent
            rw [(schema.indexOf?_eq_none_iff name).2 absent] at index
            cases index
          simp [map_eq_ok_iff, member]

/-- Positions found for names project a conforming row to its values under the names, which have
the types of the attributes under the names. -/
theorem project?_ordinals
    {schema : Schema}
    {names : List String}
    {positions : List Nat}
    (found : ordinals schema names = .ok positions)
    {row : Row}
    (conforms : row.Conforms schema) :
    row.project? positions = some (row.valuesOf schema names) ∧
      (row.valuesOf schema names).map Value.type =
        (names.filterMap schema.attribute?).map Attribute.type := by
  induction names generalizing positions with
  | nil =>
      cases found
      exact ⟨rfl, rfl⟩
  | cons name rest inductionHypothesis =>
      obtain ⟨position, here, found⟩ := bind_eq_ok_iff.1 found
      obtain ⟨others, there, equal⟩ := bind_eq_ok_iff.1 found
      cases equal
      have index : schema.indexOf? name = some position := by
        unfold Schema.ordinal at here
        cases own : schema.indexOf? name <;> simp_all
      obtain ⟨attr, value, named, atPosition, byName, valueType⟩ := conforms.value_at index
      obtain ⟨projected, types⟩ := inductionHypothesis there
      unfold Row.project? Row.valuesOf at projected ⊢
      constructor
      · simp [List.mapM_cons, atPosition, projected, byName]
      · unfold Row.valuesOf at types
        simp [byName, named, valueType, types]

theorem projectAll_eq
    {schema : Schema}
    {names : List String}
    {positions : List Nat}
    (found : ordinals schema names = .ok positions)
    {rows : List Row}
    (conforming : ∀ row ∈ rows, row.Conforms schema) :
    projectAll positions rows = .ok (rows.map fun row => row.valuesOf schema names) := by
  induction rows with
  | nil => rfl
  | cons row rest inductionHypothesis =>
      have projected := (project?_ordinals found (conforming row (by simp))).1
      have others := inductionHypothesis fun other member =>
        conforming other (List.mem_cons_of_mem row member)
      simp [projectAll, projected, others, Except.map]

theorem checkDistinct_eq_ok_iff (names : List String) :
    checkDistinct names = .ok () ↔ names.Nodup := by
  unfold checkDistinct
  cases repeated : firstRepeated? [] names with
  | none => simpa using ((firstRepeated?_eq_none_iff _ _).1 repeated).1
  | some name =>
      have notNodup : ¬ names.Nodup := by
        intro nodup
        rw [(firstRepeated?_eq_none_iff _ _).2 ⟨nodup, by simp⟩] at repeated
        cases repeated
      simpa using notNodup

/-! ## Insertions that fit -/

/-- An insertion names a table and lists all its columns in order, with one literal for each. -/
structure Fits (catalog : Catalog) (name : String) (attributes literals : List String)
    (table : Table) : Prop where
  found : catalog.find? name = some table
  lengths : attributes.length = literals.length
  whole : attributes = table.schema.names

theorem checkLists_eq_ok_iff
    (table : Table)
    (attributes literals : List String) :
    checkLists table attributes literals = .ok () ↔
      attributes.length = literals.length ∧ attributes = table.schema.names := by
  unfold checkLists
  split
  · simp_all
  · split <;> simp_all

section
variable
  {catalog : Catalog}
  {name : String}
  {attributes literals : List String}
  {table : Table}
  (fits : Fits catalog name attributes literals table)
include fits

theorem Fits.length_eq : table.schema.attributes.length = literals.length := by
  rw [← fits.lengths, fits.whole, Schema.names, List.length_map]

/-- An insertion that fits a table is planned if its literals are read as a row that passes the
check. -/
theorem Fits.ofInsert_eq
    {row : Row}
    (read : Literal.coerceAll table.schema.attributes literals = .ok row)
    (storable : Literal.ensureStorable row literals = .ok ()) :
    ofInsert catalog name attributes literals =
      .ok (.insert { table with rows := table.rows ++ [row] } row) := by
  have lists := (checkLists_eq_ok_iff table attributes literals).2 ⟨fits.lengths, fits.whole⟩
  have conforms : Row.Conforms row table.schema := Literal.coerceAll_types fits.length_eq read
  have checked : checkStorable row literals = .ok () := mapError_eq_ok_iff.2 storable
  have appended := (table.append_eq_ok_iff _ row).2 ⟨conforms, rfl⟩
  simp only [ofInsert, bind_eq_ok_iff]
  exact ⟨table, resolve_of_find? fits.found, (), orReject_eq_ok_iff.2 lists, row,
    orReject_eq_ok_iff.2 read, (), checked, _, mapError_eq_ok_iff.2 appended, rfl⟩

end

/-! ## Queries -/

section
variable {catalog : Catalog} (sound : catalog.Sound)
include sound

/-- A table found in a sound catalog has conforming rows. -/
theorem conforming_of_resolve
    {name : String}
    {table : Table}
    (resolved : orReject (catalog.resolve name) = .ok table) :
    catalog.find? name = some table ∧ table.Conforming := by
  have found := (catalog.resolve_eq_ok_iff name table).1 (orReject_eq_ok_iff.1 resolved)
  exact ⟨found, sound.conforming table (Catalog.mem_of_find? found)⟩

/-- A planned query returns the selected rows of the table, projected to the listed names. -/
theorem ofSelect_eq_ok
    {columns : Columns}
    {name : String}
    {condition : Option Condition}
    {plan : Plan}
    (planned : ofSelect catalog columns name condition = .ok plan) :
    ∃ source schema, catalog.find? name = some source ∧
      schema.names = listed source.schema columns ∧
      schema.attributes = (listed source.schema columns).filterMap source.schema.attribute? ∧
      plan = .select
        { name := none
          schema
          rows := (source.rows.filter (selects condition source.schema)).map fun row =>
            row.valuesOf source.schema (listed source.schema columns) } := by
  simp only [ofSelect, bind_eq_ok_iff, pure, Except.pure] at planned
  obtain ⟨source, resolved, positions, found, _, _, schema, projected, bound, binds, sifted,
    split, rows, projectedRows, result, checked, equal⟩ := planned
  obtain ⟨found?, conforming⟩ := conforming_of_resolve sound resolved
  rw [sift_eq (orReject_eq_ok_iff.1 binds) conforming] at split
  cases split
  rw [projectAll_eq (orReject_eq_ok_iff.1 found) fun row member =>
    conforming row (List.mem_filter.1 member).1] at projectedRows
  cases projectedRows
  obtain ⟨_, rfl⟩ := (Table.ofRows_eq_ok_iff ..).1 (mapError_eq_ok_iff.1 checked)
  cases equal
  obtain ⟨attributes, names⟩ := Schema.project_eq_ok (mapError_eq_ok_iff.1 projected)
  exact ⟨source, schema, found?, names, attributes, rfl⟩

omit sound in
/-- A query for distinct columns of a table is planned if its condition can be bound, and then it
returns conforming rows. -/
theorem exists_ofSelect
    {name : String}
    {source : Table}
    (found : catalog.find? name = some source)
    (conforming : source.Conforming)
    {columns : Columns}
    (known : ∀ column ∈ listed source.schema columns, column ∈ source.schema.names)
    (distinct : (listed source.schema columns).Nodup)
    {condition : Option Condition}
    {bound : Option BoundCondition}
    (binds : bindWhere condition source.schema = .ok bound) :
    ∃ result : Table, ofSelect catalog columns name condition = .ok (.select result) ∧
      source.schema.project (listed source.schema columns) = .ok result.schema ∧
      result.Conforming ∧ result.name = none ∧
      result.rows = (source.rows.filter (selects condition source.schema)).map fun row =>
        row.valuesOf source.schema (listed source.schema columns) := by
  obtain ⟨positions, located⟩ := (exists_ordinals_iff ..).2 known
  obtain ⟨schema, projected⟩ := Schema.exists_project known distinct
  have selectedConforming : ∀ row ∈ source.rows.filter (selects condition source.schema),
      row.Conforms source.schema :=
    fun row member => conforming row (List.mem_filter.1 member).1
  -- The projected rows have the types of the projected schema, so building the table cannot fail.
  have resultConforming : ∀ row ∈ (source.rows.filter (selects condition source.schema)).map
      (fun row => row.valuesOf source.schema (listed source.schema columns)),
      row.Conforms schema := by
    intro row member
    obtain ⟨old, oldMember, rfl⟩ := List.mem_map.1 member
    have types := (project?_ordinals located (selectedConforming old oldMember)).2
    rw [Row.Conforms, types, Schema.types, (Schema.project_eq_ok projected).1]
  have built := (Table.ofRows_eq_ok_iff none schema _ _).2 ⟨resultConforming, rfl⟩
  refine ⟨⟨none, schema, _⟩, ?_, projected, resultConforming, rfl, rfl⟩
  simp only [ofSelect, bind_eq_ok_iff]
  exact ⟨source, resolve_of_find? found, positions, orReject_eq_ok_iff.2 located, (),
    orReject_eq_ok_iff.2 ((checkDistinct_eq_ok_iff _).2 distinct), schema,
    mapError_eq_ok_iff.2 projected, bound, orReject_eq_ok_iff.2 binds, _, sift_eq binds conforming,
    _, projectAll_eq located selectedConforming, _, mapError_eq_ok_iff.2 built, rfl⟩

omit sound in
/-- The query for all columns of the rows that meet a condition is planned, if the condition can be
bound. -/
theorem ofSelect_all
    {name : String}
    {table : Table}
    (found : catalog.find? name = some table)
    (conforming : table.Conforming)
    {condition : Option Condition}
    {bound : Option BoundCondition}
    (binds : bindWhere condition table.schema = .ok bound) :
    ofSelect catalog .all name condition =
      .ok (.select
        { name := none
          schema := table.schema
          rows := table.rows.filter (selects condition table.schema) }) := by
  have known : ∀ column ∈ listed table.schema .all, column ∈ table.schema.names :=
    fun _ member => member
  obtain ⟨result, planned, projected, _, name, rows⟩ :=
    exists_ofSelect found conforming known table.schema.nodup_names binds
  have schema : result.schema = table.schema :=
    Except.ok.inj (projected.symm.trans table.schema.project_names)
  have whole : ∀ row ∈ table.rows.filter (selects condition table.schema),
      row.valuesOf table.schema table.schema.names = row :=
    fun row member => (conforming row (List.mem_filter.1 member).1).valuesOf_names
  rw [listed, List.map_congr_left whole, List.map_id'] at rows
  rw [planned, ← rows, ← schema, ← name]

/-- A query that is not planned is rejected. -/
theorem rejecting_of_ofSelect
    {columns : Columns}
    {name : String}
    {condition : Option Condition}
    {fault : Fault}
    (failed : ofSelect catalog columns name condition = .error fault) :
    Rejecting fault := by
  rcases bind_eq_error_iff.1 failed with unresolved | ⟨source, resolved, later⟩
  · exact rejecting_of_orReject unresolved
  obtain ⟨found, conforming⟩ := conforming_of_resolve sound resolved
  rcases bind_eq_error_iff.1 later with unknown | ⟨positions, located, later⟩
  · exact rejecting_of_orReject unknown
  have known := (exists_ordinals_iff ..).1 ⟨positions, orReject_eq_ok_iff.1 located⟩
  rcases bind_eq_error_iff.1 later with repeated | ⟨⟨⟩, unrepeated, later⟩
  · exact rejecting_of_orReject repeated
  have distinct := (checkDistinct_eq_ok_iff _).1 (orReject_eq_ok_iff.1 unrepeated)
  rcases bind_eq_error_iff.1 later with unprojected | ⟨schema, _, later⟩
  · obtain ⟨result, projected⟩ := Schema.exists_project known distinct
    rw [resultSchema, projected] at unprojected
    cases unprojected
  rcases bind_eq_error_iff.1 later with unbound | ⟨bound, binds, _⟩
  · exact rejecting_of_orReject unbound
  obtain ⟨result, planned, _⟩ :=
    exists_ofSelect found conforming known distinct (orReject_eq_ok_iff.1 binds)
  rw [failed] at planned
  cases planned

/-! ## Changes -/

/-- A planned insertion adds one storable row, read from the literals, that conforms to the
schema. -/
theorem ofInsert_eq_ok
    {name : String}
    {attributes literals : List String}
    {plan : Plan}
    (planned : ofInsert catalog name attributes literals = .ok plan) :
    ∃ (table : Table) (row : Row), catalog.find? name = some table ∧
      Literal.coerceAll table.schema.attributes literals = .ok row ∧
      row.Conforms table.schema ∧ row.Storable ∧
      plan = .insert { table with rows := table.rows ++ [row] } row := by
  simp only [ofInsert, bind_eq_ok_iff, pure, Except.pure] at planned
  obtain ⟨table, resolved, _, lists, row, read, _, storable, after, appended, equal⟩ := planned
  obtain ⟨found, _⟩ := conforming_of_resolve sound resolved
  have coerced := orReject_eq_ok_iff.1 read
  obtain ⟨conforms, rfl⟩ := (Table.append_eq_ok_iff ..).1 (mapError_eq_ok_iff.1 appended)
  cases equal
  obtain ⟨lengths, whole⟩ := (checkLists_eq_ok_iff ..).1 (orReject_eq_ok_iff.1 lists)
  have fits : Fits catalog name attributes literals table := ⟨found, lengths, whole⟩
  exact ⟨table, row, found, coerced, conforms,
    Literal.storable_of_ensureStorable (Nat.le_of_eq (conforms.length_eq.trans fits.length_eq))
      (mapError_eq_ok_iff.1 storable), rfl⟩

omit sound in
/-- An insertion that is not planned is rejected. -/
theorem rejecting_of_ofInsert
    {name : String}
    {attributes literals : List String}
    {fault : Fault}
    (failed : ofInsert catalog name attributes literals = .error fault) :
    Rejecting fault := by
  rcases bind_eq_error_iff.1 failed with unresolved | ⟨table, resolved, failed⟩
  · exact rejecting_of_orReject unresolved
  rcases bind_eq_error_iff.1 failed with unfit | ⟨⟨⟩, lists, failed⟩
  · exact rejecting_of_orReject unfit
  obtain ⟨lengths, whole⟩ := (checkLists_eq_ok_iff ..).1 (orReject_eq_ok_iff.1 lists)
  have found := (catalog.resolve_eq_ok_iff name table).1 (orReject_eq_ok_iff.1 resolved)
  have fits : Fits catalog name attributes literals table := ⟨found, lengths, whole⟩
  rcases bind_eq_error_iff.1 failed with unread | ⟨row, read, failed⟩
  · exact rejecting_of_orReject unread
  have conforms : Row.Conforms row table.schema :=
    Literal.coerceAll_types fits.length_eq (orReject_eq_ok_iff.1 read)
  rcases bind_eq_error_iff.1 failed with unstorable | ⟨⟨⟩, storable, failed⟩
  · obtain ⟨own, check, rfl⟩ := mapError_eq_error_iff.1 unstorable
    obtain ⟨rejection, rfl⟩ :=
      Literal.rejected_of_ensureStorable (conforms.length_eq.trans fits.length_eq) check
    exact ⟨rejection, rfl⟩
  rcases bind_eq_error_iff.1 failed with misfit | ⟨after, _, impossible⟩
  · rw [(Table.append_eq_ok_iff ..).2 ⟨conforms, rfl⟩] at misfit
    cases misfit
  · cases impossible

omit sound in
/-- A deletion is planned if its condition can be bound. -/
theorem ofDelete_of_bound
    {name : String}
    {table : Table}
    (found : catalog.find? name = some table)
    (conforming : table.Conforming)
    {condition : Option Condition}
    {bound : Option BoundCondition}
    (binds : bindWhere condition table.schema = .ok bound) :
    ofDelete catalog name condition =
      .ok (.delete
        { table with rows := table.rows.filter (!selects condition table.schema ·) }
        (table.size - (table.rows.filter (!selects condition table.schema ·)).length)) := by
  have retained : ∀ row ∈ table.rows.filter (!selects condition table.schema ·),
      row.Conforms table.schema :=
    fun row member => conforming row (List.mem_filter.1 member).1
  have replaced := (table.replaceRows_eq_ok_iff _ _).2 ⟨retained, rfl⟩
  simp only [ofDelete, bind_eq_ok_iff]
  exact ⟨table, resolve_of_find? found, bound, orReject_eq_ok_iff.2 binds, _,
    sift_eq binds conforming, _, mapError_eq_ok_iff.2 replaced, rfl⟩

/-- A planned deletion keeps the rows that are not selected. -/
theorem ofDelete_eq_ok
    {name : String}
    {condition : Option Condition}
    {plan : Plan}
    (planned : ofDelete catalog name condition = .ok plan) :
    ∃ table, catalog.find? name = some table ∧
      plan = .delete
        { table with rows := table.rows.filter (!selects condition table.schema ·) }
        (table.size - (table.rows.filter (!selects condition table.schema ·)).length) := by
  simp only [ofDelete, bind_eq_ok_iff, pure, Except.pure] at planned
  obtain ⟨table, resolved, bound, binds, sifted, split, after, replaced, equal⟩ := planned
  obtain ⟨found, conforming⟩ := conforming_of_resolve sound resolved
  rw [sift_eq (orReject_eq_ok_iff.1 binds) conforming] at split
  cases split
  obtain ⟨_, rfl⟩ := (Table.replaceRows_eq_ok_iff ..).1 (mapError_eq_ok_iff.1 replaced)
  cases equal
  exact ⟨table, found, rfl⟩

/-- A deletion that is not planned is rejected. -/
theorem rejecting_of_ofDelete
    {name : String}
    {condition : Option Condition}
    {fault : Fault}
    (failed : ofDelete catalog name condition = .error fault) :
    Rejecting fault := by
  rcases bind_eq_error_iff.1 failed with unresolved | ⟨table, resolved, later⟩
  · exact rejecting_of_orReject unresolved
  obtain ⟨found, conforming⟩ := conforming_of_resolve sound resolved
  rcases bind_eq_error_iff.1 later with unbound | ⟨bound, binds, _⟩
  · exact rejecting_of_orReject unbound
  rw [ofDelete_of_bound found conforming (orReject_eq_ok_iff.1 binds)] at failed
  cases failed

/-- On a sound catalog, a statement that is not planned is rejected. -/
theorem rejecting_of_ofStatement
    {statement : Statement}
    {fault : Fault}
    (failed : ofStatement catalog statement = .error fault) :
    Rejecting fault := by
  cases statement with
  | select columns name condition => exact rejecting_of_ofSelect sound failed
  | insert name attributes literals => exact rejecting_of_ofInsert failed
  | delete name condition => exact rejecting_of_ofDelete sound failed

end

/-! ## What plans depend on -/

/-- The plan of a statement depends on nothing of the catalog but the table the statement names. -/
theorem ofStatement_congr
    {left right : Catalog}
    {statement : Statement}
    (sameTable : left.find? statement.table = right.find? statement.table) :
    ofStatement left statement = ofStatement right statement := by
  have resolved : left.resolve statement.table = right.resolve statement.table := by
    rw [Catalog.resolve, Catalog.resolve, sameTable]
  cases statement with
  | select columns name condition =>
      rw [Statement.table] at resolved
      rw [ofStatement, ofStatement, ofSelect, ofSelect, resolved]
  | insert name attributes literals =>
      rw [Statement.table] at resolved
      rw [ofStatement, ofStatement, ofInsert, ofInsert, resolved]
  | delete name condition =>
      rw [Statement.table] at resolved
      rw [ofStatement, ofStatement, ofDelete, ofDelete, resolved]

/-- If all rows conform, a statement that is not planned is rejected. -/
theorem rejecting_of_conforming
    {catalog : Catalog}
    (conforming : catalog.Conforming)
    {statement : Statement}
    {fault : Fault}
    (failed : ofStatement catalog statement = .error fault) :
    Rejecting fault := by
  obtain ⟨own, sound, sameTable⟩ := conforming.exists_sound statement.table
  rw [← ofStatement_congr sameTable] at failed
  exact rejecting_of_ofStatement sound failed

/-- The table that a plan changes, in its new state. -/
def changed? : Plan → Option Table
  | .select _ => none
  | .insert table _ | .delete table _ => some table

/-- A changed table is the one that the statement names, with other rows that conform. -/
theorem changed?_eq_some
    {catalog : Catalog}
    (conforming : catalog.Conforming)
    {statement : Statement}
    {plan : Plan}
    (planned : ofStatement catalog statement = .ok plan)
    {table : Table}
    (changed : plan.changed? = some table) :
    table.Conforming ∧
      ∃ old, catalog.find? statement.table = some old ∧ table.name = old.name := by
  obtain ⟨own, sound, sameTable⟩ := conforming.exists_sound statement.table
  rw [← ofStatement_congr sameTable] at planned
  rw [← sameTable]
  cases statement with
  | select columns name condition =>
      obtain ⟨_, _, _, _, _, rfl⟩ := ofSelect_eq_ok sound planned
      cases changed
  | insert name attributes literals =>
      obtain ⟨old, row, found, _, conforms, _, rfl⟩ := ofInsert_eq_ok sound planned
      cases changed
      refine ⟨fun other member => ?_, old, found, rfl⟩
      rcases List.mem_append.1 member with kept | new
      · exact sound.conforming old (Catalog.mem_of_find? found) other kept
      · exact List.mem_singleton.1 new ▸ conforms
  | delete name condition =>
      obtain ⟨old, found, rfl⟩ := ofDelete_eq_ok sound planned
      cases changed
      refine ⟨fun other member => ?_, old, found, rfl⟩
      exact sound.conforming old (Catalog.mem_of_find? found) other (List.mem_filter.1 member).1

end Plan
end Engine
end FlatTables
