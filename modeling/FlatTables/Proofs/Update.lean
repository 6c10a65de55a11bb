import FlatTables.Fault
import FlatTables.Proofs.Catalog
import FlatTables.Proofs.Except
import FlatTables.Update

/-!
# Updates of tables

A call that changes a table fails exactly if one of the rows that are given with it does not conform
to the schema. It then fails for the first such row and its leftmost value that is to blame, and the
table holds the rows that it held before. So whatever calls are made on a table, one after the other,
all its rows conform to its schema.
-/

namespace FlatTables

/-! ## Rows that do not conform -/

namespace Row

/-- What keeps a row from conforming: the number of its values, or else the leftmost value whose type
is not that of its attribute. -/
inductive Offends (row : Row) (schema : Schema) : RowFault → Prop
  | arity (differs : row.length ≠ schema.arity) :
      Offends row schema (.arity row.length schema)
  | type {attr : Attribute} {value : Value}
      (arity : row.length = schema.arity)
      (leftmost : Reached (fun pair => pair.2.type = pair.1.type) (schema.attributes.zip row)
        (attr, value))
      (differs : value.type ≠ attr.type) :
      Offends row schema (.type attr value.type)

theorem firstMismatch?_eq_some_iff
    (attributes : List Attribute)
    (row : Row)
    (fault : RowFault) :
    firstMismatch? attributes row = some fault ↔
      ∃ pair, Reached (fun pair => pair.2.type = pair.1.type) (attributes.zip row) pair ∧
        pair.2.type ≠ pair.1.type ∧ fault = .type pair.1 pair.2.type := by
  induction attributes generalizing row with
  | nil => simp [firstMismatch?]
  | cons attr rest inductionHypothesis =>
      cases row with
      | nil => simp [firstMismatch?]
      | cons value values =>
          rw [List.zip_cons_cons, exists_reached_cons_iff, ← inductionHypothesis]
          by_cases sameType : value.type = attr.type <;>
            simp [firstMismatch?, sameType, eq_comm]

/-- A row does not pass the check exactly for what keeps it from conforming. -/
theorem check_eq_error_iff
    (row : Row)
    (schema : Schema)
    (fault : RowFault) :
    row.check schema = .error fault ↔ row.Offends schema fault := by
  unfold check
  by_cases arity : row.length = schema.arity
  · rw [if_neg (not_not_intro arity)]
    have mismatch := firstMismatch?_eq_some_iff schema.attributes row
    constructor
    · intro failed
      cases first : firstMismatch? schema.attributes row with
      | none => simp [first] at failed
      | some own =>
          obtain ⟨⟨attr, value⟩, leftmost, differs, rfl⟩ := (mismatch own).1 first
          obtain rfl : _ = fault := by simpa [first] using failed
          exact .type arity leftmost differs
    · rintro (differs | ⟨_, leftmost, differs⟩)
      · exact absurd arity differs
      · rw [(mismatch _).2 ⟨_, leftmost, differs, rfl⟩]
  · rw [if_pos arity, Except.error.injEq]
    constructor
    · rintro rfl
      exact .arity arity
    · rintro (_ | ⟨sameArity, _, _⟩)
      · rfl
      · exact absurd sameArity arity

/-- The class of the fault tells whether the number of values is to blame. -/
theorem Offends.label
    {row : Row}
    {schema : Schema}
    {fault : RowFault}
    (offends : row.Offends schema fault) :
    (Fault.row fault).label = if row.length = schema.arity then "TypeError" else "ValueError" := by
  cases offends with
  | arity differs => rw [if_neg differs]; rfl
  | type arity => rw [if_pos arity]; rfl

end Row

/-- Rows do not pass the check exactly for what keeps the first of them from conforming that does
not conform. -/
theorem Table.checkAll_eq_error_iff
    (schema : Schema)
    (rows : List Row)
    (fault : RowFault) :
    checkAll schema rows = .error fault ↔
      ∃ row, Reached (fun other => other.Conforms schema) rows row ∧
        row.Offends schema fault := by
  induction rows with
  | nil => simp [checkAll]
  | cons row rest inductionHypothesis =>
      rw [exists_reached_cons_iff, ← inductionHypothesis, ← Row.check_eq_error_iff,
        ← Row.check_eq_ok_iff, checkAll]
      cases row.check schema <;> simp

namespace Update

/-! ## Steps -/

@[simp]
theorem run_check
    (schema : Schema)
    (row : Row)
    (held : List Row) :
    ((check schema row).run).run held = (row.check schema, held) :=
  rfl

/-- Checking rows leaves those that the table holds as they are. -/
@[simp]
theorem run_forM_check
    (schema : Schema)
    (rows held : List Row) :
    ((forM rows (check schema) : Steps Unit).run).run held = (Table.checkAll schema rows, held) := by
  induction rows with
  | nil => rfl
  | cons row rest inductionHypothesis =>
      rw [List.forM_cons, ExceptT.run_bind, StateT.run_bind, run_check, Table.checkAll]
      cases row.check schema with
      | error fault => rfl
      | ok => exact inductionHypothesis

/-- A call made step by step comes to what it comes to at once. If it fails, the table is left as it
was. -/
theorem perform_eq
    (table : Table)
    (update : Update) :
    update.perform table =
      match update.apply table with
      | .ok after => (.ok (), after)
      | .error fault => (.error fault, table) := by
  unfold perform apply steps
  cases update with
  | append row =>
      dsimp only
      rw [ExceptT.run_bind, StateT.run_bind, run_check, Table.append]
      cases row.check table.schema <;> rfl
  | replaceRows rows =>
      dsimp only
      rw [ExceptT.run_bind, StateT.run_bind, run_forM_check, Table.replaceRows]
      cases Table.checkAll table.schema rows <;> rfl
  | truncate => rfl

/-! ## One call -/

/-- A call succeeds exactly if all rows given with it conform. -/
theorem apply_eq_ok_iff
    (table after : Table)
    (update : Update) :
    update.apply table = .ok after ↔
      (∀ row ∈ update.given, row.Conforms table.schema) ∧
        after = { table with rows := update.changed table.rows } := by
  cases update with
  | append row => simp [apply, given, changed, Table.append_eq_ok_iff]
  | replaceRows rows => simp [apply, given, changed, Table.replaceRows_eq_ok_iff]
  | truncate => simp [apply, given, changed, Table.truncate, eq_comm]

/-- It fails exactly for what keeps the first row from conforming that does not conform. -/
theorem apply_eq_error_iff
    (table : Table)
    (update : Update)
    (fault : RowFault) :
    update.apply table = .error fault ↔
      ∃ row, Reached (fun other => other.Conforms table.schema) update.given row ∧
        row.Offends table.schema fault := by
  cases update with
  | append row =>
      simp [apply, given, Table.append, map_eq_error_iff, Row.check_eq_error_iff,
        exists_reached_cons_iff]
  | replaceRows rows =>
      simp [apply, given, Table.replaceRows, map_eq_error_iff, Table.checkAll_eq_error_iff]
  | truncate => simp [apply, given]

/-- The rows that a call leaves were there before it or are given with it. -/
theorem mem_changed
    {update : Update}
    {held : List Row}
    {row : Row}
    (member : row ∈ update.changed held) :
    row ∈ held ∨ row ∈ update.given := by
  cases update with
  | append new => simpa [changed, given] using member
  | replaceRows rows => exact .inr member
  | truncate => cases member

/-- A call does not change the name and the schema of a table, and leaves conforming rows only. -/
theorem conforming_perform
    {table : Table}
    (conforming : table.Conforming)
    (update : Update) :
    (update.perform table).2.name = table.name ∧
      (update.perform table).2.schema = table.schema ∧ (update.perform table).2.Conforming := by
  rw [perform_eq]
  cases applied : update.apply table with
  | error fault => exact ⟨rfl, rfl, conforming⟩
  | ok after =>
      obtain ⟨conform, rfl⟩ := (apply_eq_ok_iff ..).1 applied
      refine ⟨rfl, rfl, fun row member => ?_⟩
      rcases mem_changed member with held | new
      · exact conforming row held
      · exact conform row new

/-! ## Calls in a row -/

/-- A table built from rows is an empty one to which they have been added one by one. -/
theorem ofRows_eq_foldlM
    (name : Option String)
    (schema : Schema)
    (rows : List Row) :
    Table.ofRows name schema rows = rows.foldlM Table.append { name, schema } := by
  have onto : ∀ held : List Row,
      (Table.checkAll schema rows).map (fun () => { name, schema, rows := held ++ rows }) =
        rows.foldlM Table.append { name, schema, rows := held } := by
    induction rows with
    | nil => intro held; simp [Table.checkAll, Except.map, pure, Except.pure]
    | cons row rest inductionHypothesis =>
        intro held
        rw [List.foldlM_cons, Table.append, Table.checkAll]
        cases row.check schema with
        | error fault => rfl
        | ok =>
            have appended := inductionHypothesis (held ++ [row])
            rw [List.append_assoc, List.singleton_append] at appended
            exact appended
  exact onto []

/-- The same of calls in a row. -/
theorem conforming_performAll
    {table : Table}
    (conforming : table.Conforming)
    (updates : List Update) :
    (performAll table updates).name = table.name ∧
      (performAll table updates).schema = table.schema ∧
        (performAll table updates).Conforming := by
  induction updates generalizing table with
  | nil => exact ⟨rfl, rfl, conforming⟩
  | cons update rest inductionHypothesis =>
      obtain ⟨sameName, sameSchema, conformingAfter⟩ := conforming_perform conforming update
      rw [← sameName, ← sameSchema]
      exact inductionHypothesis conformingAfter

/-- Whatever calls are made on a table after it has been built, every row it then holds has a value
of the right type for every attribute. The next call fails exactly if a row that is given with it
does not conform, for what keeps the first such row from conforming, and then the table is as before.
Otherwise the table holds what the call makes of its rows. -/
theorem conforming_and_all_or_nothing
    {name : Option String}
    {schema : Schema}
    {rows : List Row}
    {table before : Table}
    (built : Table.ofRows name schema rows = .ok table)
    {updates : List Update}
    (through : performAll table updates = before) :
    (∀ row ∈ before.rows, row.length = schema.arity ∧
      ∀ (ordinal : Nat) (attr : Attribute), schema.attributes[ordinal]? = some attr →
        ∃ value : Value, row[ordinal]? = some value ∧ value.type = attr.type) ∧
    ∀ update : Update,
      ((∃ fault, (update.perform before).1 = .error fault) ↔
        ∃ row ∈ update.given, ¬ row.Conforms schema) ∧
      (∀ fault, (update.perform before).1 = .error fault →
        (update.perform before).2 = before ∧
        ∃ row, Reached (fun other => other.Conforms schema) update.given row ∧
          row.Offends schema fault ∧
          (Fault.row fault).label =
            if row.length = schema.arity then "TypeError" else "ValueError") ∧
      ((update.perform before).1 = .ok () →
        (update.perform before).2 = { before with rows := update.changed before.rows }) := by
  obtain ⟨conformingTable, rfl⟩ := Table.ofRows_eq_ok built
  obtain ⟨_, sameSchema, conforming⟩ := conforming_performAll conformingTable updates
  rw [through] at sameSchema conforming
  obtain rfl : before.schema = schema := sameSchema
  refine ⟨fun row member => ?_, fun update => ?_⟩
  · have conforms := conforming row member
    exact ⟨conforms.length_eq, fun _ _ => conforms.type_at⟩
  · rw [perform_eq]
    cases applied : update.apply before with
    | ok after =>
        obtain ⟨conform, rfl⟩ := (apply_eq_ok_iff ..).1 applied
        refine ⟨iff_of_false (by simp) ?_, by simp, fun _ => rfl⟩
        rintro ⟨row, member, differs⟩
        exact differs (conform row member)
    | error fault =>
        obtain ⟨row, reached, offends⟩ := (apply_eq_error_iff ..).1 applied
        have differs : ¬ row.Conforms before.schema := by
          rw [← Row.check_eq_ok_iff, (Row.check_eq_error_iff ..).2 offends]
          simp
        refine ⟨iff_of_true ⟨fault, rfl⟩ ⟨row, reached.mem, differs⟩, ?_, by simp⟩
        rintro _ ⟨⟩
        exact ⟨rfl, row, reached, offends, offends.label⟩

/-- A table with a number and a text in every row, and one row. -/
def sampleTable : Table where
  name := some "T"
  schema := ⟨[⟨"n", .integer⟩, ⟨"t", .text⟩], by decide⟩
  rows := [[.integer 1, .text "a"]]

/-- Three rows. The second has a number for a text, and the third has no values at all. -/
def sampleUpdate : Update :=
  .replaceRows [[.integer 2, .text "b"], [.integer 3, .integer 4], []]

/-- A row that is too short is not added. Of the three rows that are to replace the others the second
is to blame, and the table keeps its row. -/
theorem perform_sampleUpdate :
    (sampleUpdate.perform (performAll sampleTable [.append [.integer 5]])).2 = sampleTable ∧
      ∃ row, Reached (fun other => other.Conforms sampleTable.schema) sampleUpdate.given row ∧
        row.Offends sampleTable.schema (.type ⟨"t", .text⟩ .integer) := by
  have built : Table.ofRows (some "T") sampleTable.schema sampleTable.rows = .ok sampleTable := by
    decide
  have through : performAll sampleTable [.append [.integer 5]] = sampleTable := by decide
  obtain ⟨_, fails, _⟩ := (conforming_and_all_or_nothing built through).2 sampleUpdate
  obtain ⟨unchanged, row, reached, offends, _⟩ :=
    fails (.type ⟨"t", .text⟩ .integer) (by decide)
  rw [through]
  exact ⟨unchanged, row, reached, offends⟩

end Update
end FlatTables
