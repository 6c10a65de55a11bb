import FlatTables.Proofs.Engine.Restart
import FlatTables.Proofs.Samples
import FlatTables.Proofs.Storage.WriteFault

/-!
# Rows that can be written

The rows of a folder's tables can be written as lines when they are loaded, and they stay so
whatever is called: the text of a statement, or a statement that was put together without one. No
assumption is made on where the files stand, and a call may also end in a fault. A write then fails
only for a reason that lies in the workspace.
-/

namespace FlatTables
namespace Engine

open Query (Statement StatementType)
open Storage
open DataFile (Encodable EncodingFault)

variable {σ : Type}

/-! ## Calls -/

/-- A call of a started database: the text of a statement, or a statement that was put together
without a text. -/
inductive Call
  | text (sql : String)
  | built (statement : Statement)

namespace Database

/-- Make a call. A built statement is carried out on the tables of the database and not counted. -/
def perform (gateway : Gateway σ) (database : Database σ) : Call → Turn σ Reply
  | .text sql => database.execute gateway sql
  | .built statement =>
      match database.catalog with
      | none => database.refuse .notStarted
      | some catalog =>
          let execution := Execution.ofStatement gateway ⟨catalog, database.storage⟩ statement
          ⟨replyTo statement.type execution.result,
            { database with
              storage := execution.store.storage
              catalog := some execution.store.catalog },
            execution.signals⟩

/-- The database after calls, whatever they came to. -/
def afterCalls (gateway : Gateway σ) (database : Database σ) (calls : List Call) : Database σ :=
  calls.foldl (fun database call => (database.perform gateway call).database) database

end Database

/-- The message of the write that has failed, if the statement was accepted. -/
def Reply.writeFailure? : Reply → Option String
  | .accepted outcome => outcome.writeFailure?
  | .rejected .. => none

/-- What a call has done: it has an answer and has left the store alone, or it has changed the one
table it names and has handed the change to the gateway. -/
inductive Carried (gateway : Gateway σ) (before : Store σ) : Except Fault Reply → Store σ → Prop
  | idle (reply : Reply)
      (unfailed : reply.writeFailure? = none) :
      Carried gateway before (.ok reply) before
  | changed {name : String} {table : Table} (change : Change) (outcome : Option String → Outcome)
      (found : before.catalog.find? name = some table)
      (admissible : change.Admissible table.schema)
      (fails : ∀ failure, (outcome failure).writeFailure? = failure) :
      Carried gateway before (conclude outcome (change.write gateway table before.storage))
        ⟨before.catalog.edit name (change.apply table.schema),
          (change.write gateway table before.storage).state before.storage⟩

/-- A statement is rejected, or it returns a table, or it changes the table it names. -/
theorem carried_ofStatement
    (gateway : Gateway σ)
    {before : Store σ}
    (sound : before.catalog.Sound)
    (statement : Statement) :
    Carried gateway before
      (Database.replyTo statement.type
        (Execution.ofStatement gateway before statement).result)
      (Execution.ofStatement gateway before statement).store := by
  unfold Execution.ofStatement
  cases planned : Plan.ofStatement before.catalog statement with
  | error fault =>
      obtain ⟨rejection, rfl⟩ := Plan.rejecting_of_ofStatement sound planned
      exact .idle (.rejected _ rejection) rfl
  | ok plan =>
      cases statement with
      | select columns name condition =>
          obtain ⟨source, schema, _, _, _, rfl⟩ := Plan.ofSelect_eq_ok sound planned
          exact .idle (.accepted (.selected _)) rfl
      | insert name attributes literals =>
          obtain ⟨table, row, found, coerced, conforms, storable, rfl⟩ :=
            Plan.ofInsert_eq_ok sound planned
          simp only [Execution.ofPlan]
          obtain ⟨store, reply⟩ := ofWrite_eq .append { table with rows := table.rows ++ [row] }
            before (gateway.append { table with rows := table.rows ++ [row] } row before.storage)
            .inserted .rowInserted (Statement.insert name attributes literals).type
          rw [store, reply, sound.update_eq_edit found (· ++ [row])]
          exact .changed (.insert row) (.inserted (table.name.getD "")) found
            ⟨conforms, writable_of_coerceAll coerced, storable⟩ fun _ => rfl
      | delete name condition =>
          obtain ⟨table, found, rfl⟩ := Plan.ofDelete_eq_ok sound planned
          simp only [Execution.ofPlan]
          -- The outcome tells how many rows are gone, which has no part in what is written.
          generalize table.size - _ = count
          obtain ⟨store, reply⟩ := ofWrite_eq .overwrite
            { table with rows := table.rows.filter (!Plan.selects condition table.schema ·) } before
            (gateway.overwrite
              { table with rows := table.rows.filter (!Plan.selects condition table.schema ·) }
              before.storage)
            (fun name => .deleted name count) (fun name => .rowsDeleted name count)
            (Statement.delete name condition).type
          rw [store, reply,
            sound.update_eq_edit found (·.filter (!Plan.selects condition table.schema ·))]
          exact .changed (.delete condition) (.deleted (table.name.getD "") count) found trivial
            fun _ => rfl

/-- A call of a database with a sound catalog does what a statement does, or it is a text that
cannot be read. -/
theorem carried_perform
    (gateway : Gateway σ)
    {database : Database σ}
    {before : Store σ}
    (holds : database.Holds before)
    (sound : before.catalog.Sound)
    (call : Call) :
    ∃ after, (database.perform gateway call).database.Holds after ∧
      Carried gateway before (database.perform gateway call).result after := by
  obtain ⟨storage, loaded, executed, failed, lastStatement⟩ := database
  obtain ⟨rfl, rfl⟩ := holds
  cases call with
  | text sql =>
      simp only [Database.perform, Database.execute, Database.answer]
      cases parsed : Statement.parse sql with
      | error rejection => exact ⟨before, ⟨rfl, rfl⟩, .idle (.rejected none rejection) rfl⟩
      | ok statement =>
          obtain ⟨result, held⟩ := carryOut_eq gateway
            ⟨before.storage, some before.catalog, executed, failed, lastStatement + 1⟩
            before.catalog statement
          refine ⟨_, held, ?_⟩
          simp only [result]
          exact carried_ofStatement gateway sound statement
  | built statement =>
      exact ⟨_, ⟨rfl, rfl⟩, carried_ofStatement gateway sound statement⟩

/-! ## The invariant -/

/-- The catalog is sound, every table has columns, and every row can be written as a line. -/
structure Durable (catalog : Catalog) : Prop where
  sound : catalog.Sound
  attributes : ∀ table ∈ catalog.tables, table.schema.attributes ≠ []
  encodable : ∀ table ∈ catalog.tables, ∀ row ∈ table.rows, Encodable row

/-- Whatever a folder loads is durable: a line that can be read can be written. -/
theorem durable_of_load
    {folder : Folder}
    {workspace : Workspace}
    {catalog : Catalog}
    (loaded : (folder.load workspace).result = .ok catalog) :
    Durable catalog := by
  obtain ⟨sound, schemas, readSchemas, loads⟩ := Folder.load_eq_ok loaded
  obtain ⟨text, _, read⟩ := (Folder.readSchemas_eq_ok_iff ..).1 readSchemas
  have attributes : ∀ table ∈ catalog.tables, table.schema.attributes ≠ [] := by
    intro table member
    obtain ⟨named, inSchemas, own⟩ := DataFile.exists_of_mem_right loads member
    rw [own.schema_eq]
    exact ((SchemaFile.ofText_eq_ok read).2 named inSchemas).2
  refine ⟨sound, attributes, fun table member row inRows => ?_⟩
  obtain ⟨named, _, own⟩ := DataFile.exists_of_mem_right loads member
  apply Folder.encodable_of_readRows own.rows_eq ?_ inRows
  rw [← own.schema_eq]
  exact attributes table member

/-- Rows that conform before a change conform after it. -/
theorem conforms_apply
    {schema : Schema}
    {rows : List Row}
    (conforming : ∀ row ∈ rows, row.Conforms schema)
    {change : Change}
    (admissible : change.Admissible schema) :
    ∀ row ∈ change.apply schema rows, row.Conforms schema := by
  intro row member
  cases change with
  | insert new =>
      rcases List.mem_append.1 member with old | inserted
      · exact conforming row old
      · exact List.mem_singleton.1 inserted ▸ admissible.1
  | delete condition => exact conforming row (List.mem_filter.1 member).1

/-- An admissible change of the table that is found keeps a catalog durable. -/
theorem Durable.edit
    {catalog : Catalog}
    (durable : Durable catalog)
    {name : String}
    {table : Table}
    (found : catalog.find? name = some table)
    {change : Change}
    (admissible : change.Admissible table.schema) :
    Durable (catalog.edit name (change.apply table.schema)) := by
  have own : ∀ other ∈ catalog.tables, other.isCalled name = true → other = table :=
    fun other member called => durable.sound.eq_of_isCalled found member called
  have member : table ∈ catalog.tables := Catalog.mem_of_find? found
  refine ⟨?_, ?_, ?_⟩
  · apply durable.sound.edit
    intro other otherMember called
    obtain rfl := own other otherMember called
    exact conforms_apply (durable.sound.conforming other otherMember) admissible
  · intro edited editedMember
    obtain ⟨other, otherMember, rfl⟩ := List.mem_map.1 editedMember
    split <;> exact durable.attributes other otherMember
  · intro edited editedMember
    obtain ⟨other, otherMember, rfl⟩ := List.mem_map.1 editedMember
    split
    · rename_i called
      obtain rfl := own other otherMember called
      exact encodable_apply (durable.encodable other otherMember) admissible
        (durable.attributes other otherMember)
    · exact durable.encodable other otherMember

/-- A call keeps a catalog durable, even if its write is not reported. -/
theorem Carried.durable
    {gateway : Gateway σ}
    {before after : Store σ}
    {result : Except Fault Reply}
    (carried : Carried gateway before result after)
    (durable : Durable before.catalog) :
    Durable after.catalog := by
  cases carried with
  | idle reply unfailed => exact durable
  | changed change outcome found admissible fails => exact durable.edit found admissible

/-- Calls keep a catalog durable. -/
theorem durable_afterCalls
    (gateway : Gateway σ)
    {database : Database σ}
    {before : Store σ}
    (holds : database.Holds before)
    (durable : Durable before.catalog)
    (calls : List Call) :
    ∃ after, (database.afterCalls gateway calls).Holds after ∧ Durable after.catalog := by
  induction calls generalizing database before with
  | nil => exact ⟨before, holds, durable⟩
  | cons call rest inductionHypothesis =>
      obtain ⟨middle, held, carried⟩ := carried_perform gateway holds durable.sound call
      exact inductionHypothesis held (carried.durable durable)

/-! ## Failures -/

/-- All rows that a table of a durable catalog has after a change can be written. -/
theorem Durable.encodable_apply
    {catalog : Catalog}
    (durable : Durable catalog)
    {table : Table}
    (member : table ∈ catalog.tables)
    {change : Change}
    (admissible : change.Admissible table.schema) :
    ∀ row ∈ change.apply table.schema table.rows, DataFile.Encodable row :=
  Engine.encodable_apply (durable.encodable table member) admissible
    (durable.attributes table member)

/-- If a change of a durable catalog cannot be written, the reason lies in the workspace. -/
theorem Durable.ofWorkspace_of_write
    {folder : Folder}
    {catalog : Catalog}
    (durable : Durable catalog)
    {table : Table}
    (member : table ∈ catalog.tables)
    {change : Change}
    (admissible : change.Admissible table.schema)
    {before : Workspace}
    {fault : WriteFault}
    (failed : (change.write folder.gateway table before).result = .error fault) :
    fault.OfWorkspace := by
  obtain ⟨name, named⟩ := Option.isSome_iff_exists.1 (durable.sound.named table member)
  have encodable := durable.encodable_apply member admissible
  rw [change.write_result folder named] at failed
  cases change with
  | insert row =>
      refine Folder.ofWorkspace_of_appendTo (encodable row ?_) failed
      exact List.mem_append_right _ (List.mem_singleton_self row)
  | delete condition => exact Folder.ofWorkspace_of_overwriteWith encodable failed

/-- A change without an answer has a write that failed without being reported. -/
theorem conclude_eq_error
    {outcome : Option String → Outcome}
    {report : WriteReport σ}
    {fault : Fault}
    (unanswered : conclude outcome report = .error fault) :
    ∃ own, report.result = .error own ∧ own.reported? = none ∧ fault = own.toFault := by
  unfold conclude at unanswered
  cases written : report.result with
  | ok state => simp [written] at unanswered
  | error own =>
      refine ⟨own, rfl, ?_⟩
      cases reported : own.reported? with
      | some message => simp [written, reported] at unanswered
      | none =>
          simp only [written, reported, Except.error.injEq] at unanswered
          exact ⟨rfl, unanswered.symm⟩

/-- A write failure that an answer tells of is that of the write. -/
theorem exists_fault_of_conclude
    {outcome : Option String → Outcome}
    (fails : ∀ failure, (outcome failure).writeFailure? = failure)
    {report : WriteReport σ}
    {reply : Reply}
    (answered : conclude outcome report = .ok reply)
    {message : String}
    (failed : reply.writeFailure? = some message) :
    ∃ own, report.result = .error own ∧ own.reported? = some message := by
  unfold conclude at answered
  cases written : report.result with
  | ok state =>
      simp only [written, Except.ok.injEq] at answered
      rw [← answered, Reply.writeFailure?, fails] at failed
      cases failed
  | error own =>
      refine ⟨own, rfl, ?_⟩
      cases reported : own.reported? with
      | none => simp [written, reported] at answered
      | some text =>
          simp only [written, reported, Except.ok.injEq] at answered
          rw [← answered, Reply.writeFailure?, fails] at failed
          exact failed

/-- If a call of a durable database ends in a fault or reports that its write has failed, the reason
lies in the workspace. -/
theorem Carried.ofWorkspace
    {folder : Folder}
    {before after : Store Workspace}
    {result : Except Fault Reply}
    (carried : Carried folder.gateway before result after)
    (durable : Durable before.catalog) :
    (∀ fault, result = .error fault → ∃ own : WriteFault, own.OfWorkspace ∧ fault = own.toFault) ∧
      ∀ reply message, result = .ok reply → reply.writeFailure? = some message →
        ∃ own : WriteFault, own.OfWorkspace ∧ own.reported? = some message := by
  cases carried with
  | idle reply unfailed =>
      refine ⟨nofun, fun other message answered failed => ?_⟩
      rw [← Except.ok.inj answered, unfailed] at failed
      cases failed
  | changed change outcome found admissible fails =>
      have member := Catalog.mem_of_find? found
      constructor
      · intro fault unanswered
        obtain ⟨own, written, _, equal⟩ := conclude_eq_error unanswered
        exact ⟨own, durable.ofWorkspace_of_write member admissible written, equal⟩
      · intro reply message answered failed
        obtain ⟨own, written, reported⟩ := exists_fault_of_conclude fails answered failed
        exact ⟨own, durable.ofWorkspace_of_write member admissible written, reported⟩

/-- After a start that succeeds and any calls, every row of every table can be written as a line.
No further call ends in the fault of a number that is too long to be written, or reports the message
of a row that cannot be written; and no table is prevented from being written anew, in whatever
workspace, by one of its rows. -/
theorem rows_stay_encodable
    {folder : Folder}
    {idle : Database Workspace}
    (started : (idle.start folder.gateway).result = .ok ())
    (calls : List Call) :
    ∃ catalog,
      ((idle.start folder.gateway).database.afterCalls folder.gateway calls).catalog =
        some catalog ∧
      (∀ table ∈ catalog.tables, ∀ row ∈ table.rows, ∃ line, DataFile.encode row = .ok line) ∧
      (∀ call,
        let result := (((idle.start folder.gateway).database.afterCalls folder.gateway
          calls).perform folder.gateway call).result
        result ≠ .error .oversizedInteger ∧
          ∀ reply message, result = .ok reply → reply.writeFailure? = some message →
            ∀ path own, (Folder.encodingFailure path own).reported? ≠ some message) ∧
      ∀ table ∈ catalog.tables, ∀ workspace fault,
        (folder.overwrite table workspace).result = .error fault →
          ∀ path own, fault ≠ Folder.encodingFailure path own := by
  obtain ⟨loadedCatalog, loaded, held⟩ := holds_start started
  rw [Folder.gateway_load] at loaded
  obtain ⟨reached, heldAfter, durable⟩ :=
    durable_afterCalls folder.gateway held (durable_of_load loaded) calls
  refine ⟨reached.catalog, heldAfter.catalog_eq, durable.encodable, ?_, ?_⟩
  · intro call
    obtain ⟨after, _, carried⟩ := carried_perform folder.gateway heldAfter durable.sound call
    obtain ⟨faults, failures⟩ := carried.ofWorkspace durable
    constructor
    · intro oversized
      obtain ⟨own, ofWorkspace, equal⟩ := faults _ oversized
      cases ofWorkspace <;> cases equal
    · intro reply message answered failed
      obtain ⟨own, ofWorkspace, reported⟩ := failures reply message answered failed
      exact ofWorkspace.reported?_ne_encodingFailure reported
  · intro table member workspace fault failed
    obtain ⟨name, named⟩ := Option.isSome_iff_exists.1 (durable.sound.named table member)
    rw [folder.overwrite_result named] at failed
    have ofWorkspace := Folder.ofWorkspace_of_overwriteWith (durable.encodable table member) failed
    exact ofWorkspace.ne_encodingFailure

/-- A row from a text and a row from a built statement can both be written. -/
theorem rows_stay_encodable_sample :
    ∃ catalog,
      (((sampleDatabase "R(x:Real)\n").start sampleFolder.gateway).database.afterCalls
        sampleFolder.gateway
        [.text "INSERT INTO R (x) VALUES (1.5)", .built (.insert "r" ["x"] ["-2e-3"])]).catalog =
          some catalog ∧
      catalog.tables.map Table.size = [2] ∧
      ∀ table ∈ catalog.tables, ∀ row ∈ table.rows, ∃ line, DataFile.encode row = .ok line := by
  have started : ((sampleDatabase "R(x:Real)\n").start sampleFolder.gateway).result = .ok () := by
    decide +kernel
  obtain ⟨catalog, reached, encodable, _⟩ := rows_stay_encodable started
    [.text "INSERT INTO R (x) VALUES (1.5)", .built (.insert "r" ["x"] ["-2e-3"])]
  refine ⟨catalog, reached, ?_, encodable⟩
  have sizes :
      (((sampleDatabase "R(x:Real)\n").start sampleFolder.gateway).database.afterCalls
        sampleFolder.gateway [.text "INSERT INTO R (x) VALUES (1.5)",
          .built (.insert "r" ["x"] ["-2e-3"])]).catalog.map (·.tables.map Table.size) =
        some [2] := by
    decide +kernel
  rw [reached] at sizes
  exact Option.some.inj sizes

end Engine
end FlatTables
