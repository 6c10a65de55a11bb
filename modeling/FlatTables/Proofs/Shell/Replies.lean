import FlatTables.Proofs.Engine.Encodable
import FlatTables.Proofs.FrontEnds

/-!
# Replies on a console

What is shown of a reply goes behind what stands on the console, and it does not depend on that. A
reply can be shown unless it returns a value without a text. No query does if all rows of the
database can be written, and statements keep it that way.
-/

namespace FlatTables

open Engine (Database Durable Effect Reply Store Turn step_execute)
open Storage (Gateway)

variable {σ : Type}

/-! ## One console behind another -/

namespace Console

/-- A console with the contents of another one behind its own. -/
def append (console further : Console) : Console :=
  ⟨console.output ++ further.output, console.errors ++ further.errors⟩

@[simp] theorem append_output (console further : Console) :
    (console.append further).output = console.output ++ further.output :=
  rfl

@[simp] theorem append_errors (console further : Console) :
    (console.append further).errors = console.errors ++ further.errors :=
  rfl

@[simp] theorem empty_append (console : Console) : Console.append {} console = console := by
  simp [append]

@[simp] theorem append_empty (console : Console) : console.append {} = console := by
  simp [append]

end Console

/-! ## Showing a reply -/

namespace Shell

/-- What is shown of a reply goes behind what stands on the console. -/
theorem show?_eq_map
    (console : Console)
    (reply : Reply) :
    show? console reply = (show? {} reply).map console.append := by
  cases reply with
  | rejected type rejection =>
      simp [show?, Reply.rejection?, Except.map, Console.append, Console.writeError,
        String.append_assoc]
  | accepted outcome =>
      simp only [show?, Reply.rejection?]
      cases replyText (.accepted outcome) with
      | error fault => rfl
      | ok text =>
          cases (Reply.accepted outcome).persisted <;>
            simp [bind, Except.bind, pure, Except.pure, Except.map, Console.append,
              Console.writeLine, Console.write, Console.writeError, String.append_assoc]

/-- A reply is shown exactly if it is shown on an empty console. -/
theorem show?_eq_ok
    {reply : Reply}
    {own : Console}
    (shown : show? {} reply = .ok own)
    (console : Console) :
    show? console reply = .ok (console.append own) := by
  rw [show?_eq_map, shown]
  rfl

/-- A statement that is answered by a reply which can be shown. -/
theorem runStatement_of_shown
    {gateway : Gateway σ}
    {shell : Shell σ}
    {sql : String}
    {reply : Reply}
    (answered : (shell.database.execute gateway sql).result = .ok reply)
    {own : Console}
    (shown : show? {} reply = .ok own) :
    shell.runStatement gateway sql =
      ⟨.ok (reply.success && reply.persisted),
        ⟨(shell.database.execute gateway sql).database, shell.console.append own⟩⟩ := by
  simp only [runStatement, answered, show?_eq_ok shown]

/-- A statement that is not answered. -/
theorem runStatement_of_unanswered
    {gateway : Gateway σ}
    {shell : Shell σ}
    {sql : String}
    {fault : Fault}
    (unanswered : (shell.database.execute gateway sql).result = .error fault) :
    shell.runStatement gateway sql =
      ⟨.error fault, { shell with database := (shell.database.execute gateway sql).database }⟩ := by
  simp only [runStatement, unanswered]

end Shell

/-! ## Databases whose replies can be shown -/

/-- A table whose rows can be written has a text. -/
theorem Table.exists_render?
    {table : Table}
    (writable : ∀ row ∈ table.rows, Row.Writable row) :
    ∃ text, table.render? = some text := by
  obtain ⟨texts, formatted⟩ := exists_mapM_eq_some fun row member =>
    Storage.DataFile.mapM_of_writable (writable row member)
  exact ⟨_, by rw [render?, formatted, Option.map_some]⟩

/-- A reply can be shown if the rows it returns can be written. -/
theorem Shell.exists_shown
    {reply : Reply}
    (writable : ∀ row ∈ reply.rows, Row.Writable row) :
    ∃ console, show? {} reply = .ok console := by
  unfold show? replyText
  cases reply.rejection? with
  | some rejection => exact ⟨_, rfl⟩
  | none =>
      cases returned : reply.table? with
      | none => exact ⟨_, rfl⟩
      | some table =>
          have rows : reply.rows = table.rows := by rw [Reply.rows, returned]; rfl
          obtain ⟨text, rendered⟩ := Table.exists_render? (rows ▸ writable)
          simp only [rendered]
          exact ⟨_, rfl⟩

/-- The values of a row that can be written have texts, whichever are picked. -/
theorem Row.Writable.valuesOf
    {row : Row}
    (writable : row.Writable)
    (schema : Schema)
    (names : List String) :
    (row.valuesOf schema names).Writable := by
  intro value member
  obtain ⟨name, _, found⟩ := List.mem_filterMap.1 member
  rw [Row.valueOf?_eq, Option.bind_eq_some_iff] at found
  obtain ⟨ordinal, _, there⟩ := found
  exact writable value (List.mem_of_getElem? there)

/-- The catalog is sound, and every value of every row has a text. -/
structure Catalog.Legible (catalog : Catalog) : Prop where
  sound : catalog.Sound
  writable : ∀ table ∈ catalog.tables, ∀ row ∈ table.rows, Row.Writable row

/-- Only the rows that a change adds have to be looked at. -/
theorem Catalog.writable_edit
    {catalog : Catalog}
    (writable : ∀ table ∈ catalog.tables, ∀ row ∈ table.rows, Row.Writable row)
    {name : String}
    {change : List Row → List Row}
    (added : ∀ rows, ∀ row ∈ change rows, row ∈ rows ∨ Row.Writable row) :
    ∀ table ∈ (catalog.edit name change).tables, ∀ row ∈ table.rows, Row.Writable row := by
  intro edited member
  obtain ⟨table, inTables, rfl⟩ := List.mem_map.1 member
  split
  · intro row changed
    rcases added table.rows row changed with old | new
    · exact writable table inTables row old
    · exact new
  · exact writable table inTables

namespace Engine

/-- Rows that can be written as lines have texts. -/
theorem Durable.legible
    {catalog : Catalog}
    (durable : Durable catalog) :
    catalog.Legible := by
  refine ⟨durable.sound, fun table member row inRows value inRow => ?_⟩
  obtain ⟨line, encoded⟩ := durable.encodable table member row inRows
  obtain ⟨fields, formatted, _⟩ := Storage.DataFile.encode_eq_ok encoded
  obtain ⟨field, _, own⟩ := Storage.DataFile.exists_of_mem_right formatted.flip inRow
  exact ⟨field, own⟩

section
variable
  {gateway : Gateway σ}
  {before after : Store σ}
  {sql : String}
  {result : Except Fault Reply}
  (effect : Effect gateway before sql result after)
  (wasLegible : before.catalog.Legible)
include effect wasLegible

/-- A step keeps the catalog legible. -/
theorem Effect.legible : after.catalog.Legible := by
  refine ⟨effect.sound wasLegible.sound, ?_⟩
  cases effect with
  | rejected type rejection => exact wasLegible.writable
  | selected parsed found names attributes => exact wasLegible.writable
  | inserted parsed found coerced conforms storable report written =>
      apply Catalog.writable_edit wasLegible.writable
      intro rows row member
      rcases List.mem_append.1 member with old | new
      · exact .inl old
      · exact .inr (List.mem_singleton.1 new ▸ writable_of_coerceAll coerced)
  | deleted parsed found report written =>
      apply Catalog.writable_edit wasLegible.writable
      exact fun rows row retained => .inl (List.mem_filter.1 retained).1

/-- The reply of a step can be shown. -/
theorem Effect.exists_shown
    {reply : Reply}
    (answered : result = .ok reply) :
    ∃ console, Shell.show? {} reply = .ok console := by
  apply Shell.exists_shown
  cases effect with
  | rejected type rejection =>
      cases answered
      simp [Reply.rows, Reply.table?]
  | selected parsed found names attributes =>
      cases answered
      intro row returned
      obtain ⟨old, matching, rfl⟩ := List.mem_map.1 returned
      have inTables := Catalog.mem_of_find? found
      have own := wasLegible.writable _ inTables old (List.mem_filter.1 matching).1
      exact own.valuesOf _ _
  | inserted parsed found coerced conforms storable report written =>
      obtain ⟨failure, rfl, _⟩ := conclude_eq_ok answered
      simp [Reply.rows, Reply.table?, Outcome.table?]
  | deleted parsed found report written =>
      obtain ⟨failure, rfl, _⟩ := conclude_eq_ok answered
      simp [Reply.rows, Reply.table?, Outcome.table?]

end

/-- A statement on legible tables leaves them legible, and its reply can be shown. -/
theorem legible_execute
    (gateway : Gateway σ)
    {database : Database σ}
    {catalog : Catalog}
    (loaded : database.catalog = some catalog)
    (legible : catalog.Legible)
    (sql : String) :
    ∃ after, (database.execute gateway sql).database.catalog = some after ∧ after.Legible ∧
      ∀ reply, (database.execute gateway sql).result = .ok reply →
        ∃ console, Shell.show? {} reply = .ok console := by
  have holds : database.Holds ⟨catalog, database.storage⟩ := ⟨loaded, rfl⟩
  obtain ⟨after, held, step⟩ := step_execute gateway holds sql
  have effect := step.effect legible.sound
  exact ⟨after.catalog, held.catalog_eq, effect.legible legible, fun reply answered =>
    effect.exists_shown legible answered⟩

end Engine
end FlatTables
