import FlatTables.Proofs.Engine.Ledger
import FlatTables.Proofs.Samples

/-!
# Stopping and starting again

A database over a folder that is stopped can be started again exactly if every row that has been
written since its start, and is still in a file, is finite. If all changes have been persisted, a
start that succeeds finds every table as it was, with the texts of its rows trimmed.
-/

namespace FlatTables
namespace Engine

open Storage

variable {σ : Type}

/-! ## Runs -/

/-- The ledgers of a database that has just been started. -/
theorem follows_load
    {folder : Folder}
    {workspace : Workspace}
    {catalog : Catalog}
    (loaded : (folder.load workspace).result = .ok catalog)
    (separate : folder.Separate workspace catalog.names) :
    Follows folder (catalog.tables.map Ledger.ofTable) ⟨catalog, workspace⟩ := by
  obtain ⟨keeps, known⟩ := Folder.keeps_of_load loaded separate
  refine ⟨?_, ?_, ?_⟩
  · rw [List.map_map]
    refine (List.map_id _).symm.trans (List.map_congr_left fun table member => ?_)
    rw [id, Function.comp_apply, Ledger.ofTable, Ledger.table, ← (known table member).1]
    rfl
  · rw [List.map_map]
    exact keeps
  · intro ledger member
    obtain ⟨table, inTables, rfl⟩ := List.mem_map.1 member
    exact (known table inTables).2

/-- Ledgers are followed through a run. -/
theorem Follows.run
    {folder : Folder}
    {ledgers : List Ledger}
    {before after : Store Workspace}
    {answers : List (String × Reply)}
    (follows : Follows folder ledgers before)
    (sound : before.catalog.Sound)
    (run : Run folder.gateway before answers after) :
    after.catalog.Sound ∧ Follows folder (ledgers.map (·.afterAll answers)) after := by
  induction run generalizing ledgers with
  | nil store => exact ⟨sound, by simpa [Ledger.afterAll] using follows⟩
  | cons step rest inductionHypothesis =>
      have effect := step.effect sound
      have followed := follows.answered sound (effect.answered sound)
      obtain ⟨afterSound, followedRest⟩ := inductionHypothesis followed (effect.sound sound)
      rw [List.map_map] at followedRest
      exact ⟨afterSound, followedRest⟩

/-- A change after which all rows can be written is reported if it is not written. -/
theorem Change.reported_of_write
    {folder : Folder}
    {table : Table}
    {name : String}
    (named : table.name = some name)
    (noNull : holdsNull (folder.tablePath name).text = false)
    {change : Change}
    (encodable : ∀ row ∈ change.apply table.schema table.rows, DataFile.Encodable row)
    {before : Workspace}
    {fault : WriteFault}
    (failed : (change.write folder.gateway table before).result = .error fault) :
    ∃ message, fault.reported? = some message := by
  rw [change.write_result folder named] at failed
  cases change with
  | insert row =>
      refine Folder.reported_of_appendTo noNull (encodable row ?_) failed
      exact List.mem_append_right _ (List.mem_singleton_self row)
  | delete condition => exact Folder.reported_of_overwriteWith noNull encodable failed

/-- In a folder with plain names, every change that is not written is reported. -/
theorem Follows.reports
    {folder : Folder}
    (plain : folder.Plain)
    {ledgers : List Ledger}
    {store : Store Workspace}
    (follows : Follows folder ledgers store) :
    Reports folder.gateway store := by
  intro table member change admissible fault failed
  rw [follows.tables_eq] at member
  obtain ⟨ledger, ledgerMember, rfl⟩ := List.mem_map.1 member
  obtain ⟨isName, attributes⟩ :=
    follows.keeps.proper.2 ledger.file (List.mem_map_of_mem ledgerMember)
  have noNull := plain.holdsNull_tablePath follows.keeps.schemas_eq isName
  have encodable := encodable_apply (follows.encodable ledger ledgerMember) admissible attributes
  exact Change.reported_of_write rfl noNull encodable failed

/-- In a folder with plain names, every statement has a reply. -/
theorem Follows.exists_replies
    {folder : Folder}
    (plain : folder.Plain)
    {ledgers : List Ledger}
    {database : Database Workspace}
    {store : Store Workspace}
    (follows : Follows folder ledgers store)
    (sound : store.catalog.Sound)
    (holds : database.Holds store)
    (sqls : List String) :
    ∃ replies, (database.executeMany folder.gateway sqls).result = .ok replies := by
  induction sqls generalizing database store ledgers with
  | nil => exact ⟨[], rfl⟩
  | cons sql rest inductionHypothesis =>
      obtain ⟨middle, held, step⟩ := step_execute folder.gateway holds sql
      have effect := step.effect sound
      obtain ⟨reply, replied⟩ := effect.exists_reply (follows.reports plain)
      rw [replied] at effect
      obtain ⟨others, answered⟩ := inductionHypothesis
        (follows.answered sound (effect.answered sound)) (effect.sound sound) held
      exact ⟨reply :: others, by simp [Database.executeMany, replied, answered, Except.map]⟩

/-- Start a database and execute statements. -/
def Database.session (gateway : Gateway σ) (idle : Database σ) (sqls : List String) :
    Turn σ (List Reply) :=
  (idle.start gateway).database.executeMany gateway sqls

/-- The ledgers of a session are followed to its end. -/
theorem follows_session
    {folder : Folder}
    {idle : Database Workspace}
    {loaded : Catalog}
    (started : (idle.start folder.gateway).result = .ok ())
    (tables : (idle.start folder.gateway).database.catalog = some loaded)
    (separate : folder.Separate idle.storage loaded.names)
    {sqls : List String}
    {replies : List Reply}
    (answered : (idle.session folder.gateway sqls).result = .ok replies) :
    ∃ store, (idle.session folder.gateway sqls).database.Holds store ∧
      Follows folder
        (loaded.tables.map fun table => (Ledger.ofTable table).afterAll (sqls.zip replies))
        store := by
  obtain ⟨catalog, load, held⟩ := holds_start started
  obtain rfl := Option.some.inj (held.catalog_eq.symm.trans tables)
  obtain ⟨store, heldAfter, _, run⟩ := run_executeMany folder.gateway held answered
  have sound := folder.loadsSound _ _ load
  rw [Folder.gateway_load] at load
  have followed := ((follows_load load separate).run sound run).2
  rw [List.map_map] at followed
  exact ⟨store, heldAfter, followed⟩

/-! ## Restarts -/

/-- Stop a database and start it again. -/
def Database.restart (gateway : Gateway σ) (database : Database σ) : Turn σ Unit :=
  database.stop.database.start gateway

/-- A database that is stopped can be started again exactly if all lines of its files can be read.
It then has the tables of these files. -/
theorem Follows.restart
    {folder : Folder}
    {ledgers : List Ledger}
    {database : Database Workspace}
    {store : Store Workspace}
    (follows : Follows folder ledgers store)
    (holds : database.Holds store) :
    database.stop.result = .ok () ∧
      ((database.restart folder.gateway).result = .ok () ↔
        ∀ ledger ∈ ledgers, ledger.file.Readable) ∧
      ((database.restart folder.gateway).result = .ok () →
        (database.restart folder.gateway).database.catalog =
          some { tables := ledgers.map fun ledger => ledger.file.load }) := by
  have isStarted : database.isStarted = true := by
    rw [Database.isStarted, holds.catalog_eq, Option.isSome_some]
  have stopped : database.stop.database = { database with catalog := none } := by
    simp [Database.stop, isStarted]
  have load : ∀ catalog, (folder.load database.storage).result = .ok catalog ↔
      (∀ ledger ∈ ledgers, ledger.file.Readable) ∧
        catalog = { tables := ledgers.map fun ledger => ledger.file.load } := by
    intro catalog
    rw [holds.storage_eq]
    refine (follows.keeps.load_eq_ok_iff catalog).trans ?_
    simp [Function.comp_def]
  refine ⟨by simp [Database.stop, isStarted], ?_, ?_⟩
  · rw [Database.restart, start_eq_ok_iff, stopped]
    simp [load]
  · intro started
    obtain ⟨catalog, loaded, held⟩ := holds_start started
    rw [stopped, Folder.gateway_load] at loaded
    rw [← ((load catalog).1 loaded).2]
    exact held.catalog_eq

/-- With the default names, every statement has a reply and the database can be stopped. It can be
started again exactly if every row that has been written since its start, and is still in the file
of a table, is finite. -/
theorem restart_succeeds_iff_finite
    (directory : Path)
    {idle : Database Workspace}
    (started : (idle.start (Folder.usual directory).gateway).result = .ok ())
    (sqls : List String) :
    ∃ (loaded : Catalog) (replies : List Reply),
      (idle.start (Folder.usual directory).gateway).database.catalog = some loaded ∧
      (idle.session (Folder.usual directory).gateway sqls).result = .ok replies ∧
      (idle.session (Folder.usual directory).gateway sqls).database.stop.result = .ok () ∧
      (((idle.session (Folder.usual directory).gateway sqls).database.restart
          (Folder.usual directory).gateway).result = .ok () ↔
        ∀ table ∈ loaded.tables, ∀ row,
          .written row ∈ ((Ledger.ofTable table).afterAll (sqls.zip replies)).file.stored →
            row.Finite) := by
  have plain := Folder.plain_usual directory
  obtain ⟨loaded, load, held⟩ := holds_start started
  have sound : loaded.Sound := (Folder.usual directory).loadsSound _ _ load
  rw [Folder.gateway_load] at load
  have separate := plain.separate_of_load load fun name _ => Folder.usual_apart directory name
  obtain ⟨replies, answered⟩ := (follows_load load separate).exists_replies plain sound held sqls
  obtain ⟨store, heldAfter, follows⟩ := follows_session started held.catalog_eq separate answered
  obtain ⟨stopped, restarted, _⟩ := follows.restart heldAfter
  refine ⟨loaded, replies, held.catalog_eq, answered, stopped, restarted.trans ?_⟩
  constructor
  · intro readable table member row written
    exact readable _ (List.mem_map_of_mem member) _ written
  · intro finite ledger member own inFile
    obtain ⟨table, inTables, rfl⟩ := List.mem_map.1 member
    cases own with
    | kept row => trivial
    | written row => exact finite table inTables row inFile

/-- A row with a number of ordinary size can be loaded again. -/
theorem restart_succeeds_after_insert :
    (((sampleDatabase "R(x:Real)\n").session sampleFolder.gateway
      ["INSERT INTO R (x) VALUES (1.5)"]).database.restart sampleFolder.gateway).result =
        .ok () := by
  have started : ((sampleDatabase "R(x:Real)\n").start sampleFolder.gateway).result = .ok () := by
    decide +kernel
  obtain ⟨loaded, replies, tables, answered, _, restarted⟩ :=
    restart_succeeds_iff_finite (.ofString "db") started ["INSERT INTO R (x) VALUES (1.5)"]
  have loadedEq : loaded = ⟨[⟨some "R", ⟨[⟨"x", .real⟩], by decide⟩, []⟩]⟩ := by
    apply Option.some.inj (tables.symm.trans ?_)
    decide +kernel
  have repliesEq : replies = [.accepted (.inserted "R" none)] := by
    apply Except.ok.inj (answered.symm.trans ?_)
    decide +kernel
  have finite : ∀ table ∈ loaded.tables,
      ∀ own ∈ ((Ledger.ofTable table).afterAll
        (["INSERT INTO R (x) VALUES (1.5)"].zip replies)).file.stored, own.row.Finite := by
    rw [loadedEq, repliesEq]
    decide +kernel
  exact restarted.2 fun table member row written => finite table member _ written

/-- A number that is too large for the format is accepted and written as infinity, and then the
tables cannot be loaded any more. -/
theorem restart_can_fail :
    ¬ ∀ (directory : Path) (idle : Database Workspace) (sqls : List String),
      (idle.start (Folder.usual directory).gateway).result = .ok () →
        ((idle.session (Folder.usual directory).gateway sqls).database.restart
          (Folder.usual directory).gateway).result = .ok () := by
  intro always
  have restarted := always (.ofString "db") (sampleDatabase "R(x:Real)\n")
    ["INSERT INTO R (x) VALUES (1e999)"] (by decide +kernel)
  exact absurd restarted (by decide +kernel)

private theorem map_eq_self_iff
    {change : α → α}
    {list : List α} :
    list.map change = list ↔ ∀ own ∈ list, change own = own := by
  simpa using @List.map_inj_left _ _ list change id

/-- If every accepted statement of a session is persisted, a start that succeeds finds all tables
with their rows trimmed. These are the tables as they were exactly if no text starts or ends with a
blank. -/
theorem restart_trims
    {folder : Folder}
    {idle : Database Workspace}
    {loaded : Catalog}
    (started : (idle.start folder.gateway).result = .ok ())
    (tables : (idle.start folder.gateway).database.catalog = some loaded)
    (separate : folder.Separate idle.storage loaded.names)
    {sqls : List String}
    {replies : List Reply}
    (answered : (idle.session folder.gateway sqls).result = .ok replies)
    (persisted : ∀ reply ∈ replies, reply.success = true → reply.persisted = true)
    (restarted :
      ((idle.session folder.gateway sqls).database.restart folder.gateway).result = .ok ()) :
    ∃ before after : Catalog,
      (idle.session folder.gateway sqls).database.catalog = some before ∧
      ((idle.session folder.gateway sqls).database.restart folder.gateway).database.catalog =
        some after ∧
      after.tables = before.tables.map (fun table =>
        { table with rows := table.rows.map Row.trimmed }) ∧
      (after = before ↔
        ∀ table ∈ before.tables, ∀ row ∈ table.rows, Row.trimmed row = row) := by
  obtain ⟨store, held, follows⟩ := follows_session started tables separate answered
  have catalogEq := (follows.restart held).2.2 restarted
  have answersPersisted : ∀ answer ∈ sqls.zip replies,
      answer.2.success = true → answer.2.persisted = true :=
    fun answer member => persisted answer.2 (List.of_mem_zip member).2
  have tablesEq : (loaded.tables.map fun table =>
        ((Ledger.ofTable table).afterAll (sqls.zip replies)).file.load) =
      store.catalog.tables.map fun table => { table with rows := table.rows.map Row.trimmed } := by
    rw [follows.tables_eq, List.map_map, List.map_map]
    refine List.map_congr_left fun table _ => ?_
    exact ((Ledger.inSync_ofTable table).afterAll answersPersisted).load_eq
  rw [List.map_map, Function.comp_def, tablesEq] at catalogEq
  refine ⟨store.catalog, _, held.catalog_eq, catalogEq, rfl, ?_⟩
  calc
    _ ↔ store.catalog.tables.map (fun table =>
          { table with rows := table.rows.map Row.trimmed }) = store.catalog.tables :=
      ⟨congrArg Catalog.tables, congrArg Catalog.mk⟩
    _ ↔ ∀ table ∈ store.catalog.tables, table.rows.map Row.trimmed = table.rows := by
      rw [map_eq_self_iff]
      exact forall₂_congr fun table _ =>
        ⟨congrArg Table.rows, congrArg (Table.mk table.name table.schema)⟩
    _ ↔ _ := forall₂_congr fun table _ => map_eq_self_iff

/-- A text that is written as it is read comes back. -/
theorem restart_trims_nothing :
    (((sampleDatabase "T(a:Text)\n").session sampleFolder.gateway
        ["INSERT INTO T (a) VALUES ('x y')"]).database.restart
          sampleFolder.gateway).database.catalog =
      ((sampleDatabase "T(a:Text)\n").session sampleFolder.gateway
        ["INSERT INTO T (a) VALUES ('x y')"]).database.catalog := by
  have started : ((sampleDatabase "T(a:Text)\n").start sampleFolder.gateway).result = .ok () := by
    decide +kernel
  have answered : ((sampleDatabase "T(a:Text)\n").session sampleFolder.gateway
      ["INSERT INTO T (a) VALUES ('x y')"]).result = .ok [.accepted (.inserted "T" none)] := by
    decide +kernel
  obtain ⟨loaded, load, held⟩ := holds_start started
  rw [Folder.gateway_load] at load
  have separate := (Folder.plain_usual (.ofString "db")).separate_of_load load
    fun name _ => Folder.usual_apart (.ofString "db") name
  obtain ⟨before, after, beforeEq, afterEq, _, unchanged⟩ :=
    restart_trims started held.catalog_eq separate answered (by decide) (by decide +kernel)
  have catalogEq : before = ⟨[⟨some "T", ⟨[⟨"a", .text⟩], by decide⟩, [[.text "x y"]]⟩]⟩ := by
    apply Option.some.inj (beforeEq.symm.trans ?_)
    decide +kernel
  have trimmed : ∀ table ∈ before.tables, ∀ row ∈ table.rows, Row.trimmed row = row := by
    rw [catalogEq]
    decide +kernel
  rw [beforeEq, afterEq, unchanged.2 trimmed]

/-- The blanks around a text are accepted and written, and a start does not find them again. -/
theorem restart_can_trim :
    ¬ ∀ (folder : Folder) (idle : Database Workspace) (sqls : List String) (replies : List Reply),
      (idle.start folder.gateway).result = .ok () →
        (idle.session folder.gateway sqls).result = .ok replies →
          (∀ reply ∈ replies, reply.success = true → reply.persisted = true) →
            ((idle.session folder.gateway sqls).database.restart folder.gateway).result = .ok () →
              ((idle.session folder.gateway sqls).database.restart
                  folder.gateway).database.catalog =
                (idle.session folder.gateway sqls).database.catalog := by
  intro always
  have trimmed :
      ((sampleDatabase "T(a:Text)\n").start sampleFolder.gateway).result = .ok () ∧
        ((sampleDatabase "T(a:Text)\n").session sampleFolder.gateway
          ["INSERT INTO T (a) VALUES (' x')"]).result = .ok [.accepted (.inserted "T" none)] ∧
        (((sampleDatabase "T(a:Text)\n").session sampleFolder.gateway
          ["INSERT INTO T (a) VALUES (' x')"]).database.restart sampleFolder.gateway).result =
            .ok () ∧
        ¬ (((sampleDatabase "T(a:Text)\n").session sampleFolder.gateway
            ["INSERT INTO T (a) VALUES (' x')"]).database.restart
              sampleFolder.gateway).database.catalog =
          ((sampleDatabase "T(a:Text)\n").session sampleFolder.gateway
            ["INSERT INTO T (a) VALUES (' x')"]).database.catalog := by
    decide +kernel
  obtain ⟨started, answered, restarted, differs⟩ := trimmed
  exact differs (always _ _ _ _ started answered (by decide) restarted)

/-- If a data file is called like the schema file, a deletion can take another table away. -/
example :
    let folder : Folder := ⟨.ofString "db", "schema.txt", ".txt"⟩
    let session := (sampleDatabase "schema(a:Text)\nU(b:Text)\n").session folder.gateway
      ["DELETE FROM schema WHERE a = 'U(b:Text)'"]
    session.result = .ok [.accepted (.deleted "schema" 1 none)] ∧
      (session.database.restart folder.gateway).result = .ok () ∧
      session.database.catalog.map Catalog.names = some ["schema", "U"] ∧
      (session.database.restart folder.gateway).database.catalog.map Catalog.names =
        some ["schema"] := by
  decide +kernel

end Engine
end FlatTables
