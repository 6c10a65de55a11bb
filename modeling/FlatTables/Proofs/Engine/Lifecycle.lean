import FlatTables.Proofs.Engine.History
import FlatTables.Proofs.Engine.Parts
import FlatTables.Proofs.Samples
import FlatTables.Proofs.Storage.LoadFault

/-!
# The life of an engine

An engine is started, stopped and given statements in any order, while its storage changes from
outside. Whatever of this fails, its parts tell alike whether it is started, and the metrics know how
many tables it has. A start or a stop that fails changes nothing but the log, so that the next start
depends on nothing but the storage.
-/

namespace FlatTables
namespace Engine

open Storage (Gateway Folder Workspace)
open Telemetry

variable {σ : Type}

/-! ## Sound catalogs and counted tables -/

/-- How many tables are loaded, as the samples of the metrics show it. -/
def Parts.gauge (parts : Parts σ) : Nat :=
  Metrics.total (Metrics.samples (observations parts.signals)) "query_tables_loaded" []

theorem Parts.gauge_eq (parts : Parts σ) :
    parts.gauge = Metrics.tablesLoaded (observations parts.signals) :=
  Metrics.total_tablesLoaded _

/-- How many tables the database has. -/
def Database.tableCount (database : Database σ) : Nat :=
  database.catalog.elim 0 (·.tables.length)

/-- The catalog of the database is sound. -/
def Database.Sound (database : Database σ) : Prop :=
  ∀ catalog, database.catalog = some catalog → catalog.Sound

/-- A call keeps the catalog sound, and metrics that knew how many tables there were know it again. -/
structure KeepsOrder (before : Database σ) (turn : Turn σ α) : Prop where
  sound : turn.database.Sound
  counted : ∀ observed, Metrics.tablesLoaded observed = before.tableCount →
    Metrics.tablesLoaded (observed ++ observations turn.signals) = turn.database.tableCount

/-- A statement does not change the number of tables. -/
theorem Effect.length_tables
    {gateway : Gateway σ}
    {before after : Store σ}
    {sql : String}
    {result : Except Fault Reply}
    (effect : Effect gateway before sql result after) :
    after.catalog.tables.length = before.catalog.tables.length := by
  cases effect with
  | rejected type rejection => rfl
  | selected parsed found names attributes => rfl
  | inserted parsed found coerced conforms storable report written => exact List.length_map _
  | deleted parsed found report written => exact List.length_map _

namespace Database

theorem loaded_eq_ok_iff
    (database : Database σ)
    (catalog : Catalog) :
    database.loaded = .ok catalog ↔ database.catalog = some catalog := by
  unfold loaded
  cases database.catalog <;> simp

/-- A database is started exactly if its catalog is available. -/
theorem isStarted_iff_loaded (database : Database σ) :
    database.isStarted = true ↔ ∃ catalog, database.loaded = .ok catalog := by
  simp only [loaded_eq_ok_iff, isStarted, Option.isSome_iff_exists]

variable
  {database : Database σ}
  (sound : database.Sound)
include sound

theorem keepsOrder_refuse (fault : Fault) :
    KeepsOrder database (database.refuse fault : Turn σ α) :=
  ⟨sound, fun observed counted => by simpa [refuse, observations] using counted⟩

theorem keepsOrder_start
    {gateway : Gateway σ}
    (loadsSound : gateway.LoadsSound) :
    KeepsOrder database (database.start gateway) := by
  unfold start
  by_cases running : database.isStarted = true
  · rw [if_pos running]
    exact keepsOrder_refuse sound _
  · rw [if_neg running]
    dsimp only
    cases loaded : (gateway.load database.storage).result with
    | error fault => exact ⟨sound, fun observed counted => by simpa using counted⟩
    | ok catalog =>
        constructor
        · rintro _ ⟨⟩
          exact loadsSound _ _ loaded
        · intro observed _
          rw [observations_append, observations_inSpan, observations_events, List.nil_append]
          exact Metrics.tablesLoaded_append_load observed _

theorem keepsOrder_stop : KeepsOrder database database.stop := by
  unfold stop
  by_cases running : database.isStarted = true
  · rw [if_pos running]
    refine ⟨nofun, fun observed _ => ?_⟩
    exact Metrics.tablesLoaded_append_load observed 0
  · rw [if_neg running]
    exact keepsOrder_refuse sound _

theorem keepsOrder_execute
    (gateway : Gateway σ)
    (sql : String) :
    KeepsOrder database (database.execute gateway sql) := by
  cases loaded : database.catalog with
  | none =>
      rw [execute, loaded]
      exact keepsOrder_refuse sound _
  | some catalog =>
      have holds : database.Holds ⟨catalog, database.storage⟩ := ⟨loaded, rfl⟩
      obtain ⟨after, held, step⟩ := step_execute gateway holds sql
      have effect := step.effect (sound catalog loaded)
      constructor
      · intro own kept
        rw [held.catalog_eq] at kept
        exact Option.some.inj kept ▸ effect.sound (sound catalog loaded)
      · intro observed counted
        have unloaded : ∀ observation ∈ observations (database.execute gateway sql).signals,
            observation.isLoad = false := by
          rw [observations_execute]
          cases (database.execute gateway sql).result with
          | error fault => exact List.forall_mem_nil _
          | ok reply => exact fun _ => History.isLoad_of_observed
        rw [Metrics.tablesLoaded_append_other observed unloaded, counted, tableCount, tableCount,
          loaded, held.catalog_eq]
        exact effect.length_tables.symm

end Database

/-! ## Uses in a row -/

/-- The parts are those of a database with a sound catalog, and the metrics know how many tables it
has. -/
structure Orderly (parts : Parts σ) (database : Database σ) : Prop where
  represents : Represents parts database
  sound : database.Sound
  counted : parts.gauge = database.tableCount

theorem orderly_new (storage : σ) : Orderly (Parts.new storage) { storage } :=
  ⟨⟨rfl, rfl, rfl, rfl, rfl, rfl, rfl⟩, nofun, Parts.gauge_eq _⟩

section
variable
  {parts : Parts σ}
  {database : Database σ}
  (orderly : Orderly parts database)
include orderly

/-- Steps that mirror a call leave parts in order behind. -/
theorem Orderly.of_mirrors
    {turn : Turn σ α}
    {outcome : Except Fault α × Parts σ}
    (mirrors : Mirrors parts turn outcome)
    (keepsOrder : KeepsOrder database turn) :
    Orderly outcome.2 turn.database := by
  refine ⟨mirrors.represents, keepsOrder.sound, ?_⟩
  rw [Parts.gauge_eq, mirrors.signals, observations_append]
  exact keepsOrder.counted _ (parts.gauge_eq.symm.trans orderly.counted)

/-- So does every use. -/
theorem Orderly.next
    {gateway : Gateway σ}
    (loadsSound : gateway.LoadsSound)
    (use : Use σ) :
    ∃ after, Orderly (parts.next gateway use) after := by
  obtain ⟨represents, sound, counted⟩ := id orderly
  have started := orderly.of_mirrors (represents.mirrors_start gateway)
    (Database.keepsOrder_start sound loadsSound)
  have stopped := orderly.of_mirrors represents.mirrors_stop (Database.keepsOrder_stop sound)
  cases use with
  | start => exact ⟨_, started⟩
  | stop => exact ⟨_, stopped⟩
  | execute sql =>
      exact ⟨_, orderly.of_mirrors (represents.mirrors_execute gateway sql)
        (Database.keepsOrder_execute sound gateway sql)⟩
  | enter => exact ⟨_, started⟩
  | exit => exact ⟨_, stopped⟩
  | outside change =>
      exact ⟨{ database with storage := change database.storage },
        { represents with storage := congrArg change represents.storage }, sound, counted⟩

end

/-- So do uses in a row. -/
theorem Orderly.after
    {parts : Parts σ}
    {database : Database σ}
    (orderly : Orderly parts database)
    {gateway : Gateway σ}
    (loadsSound : gateway.LoadsSound)
    (uses : List (Use σ)) :
    ∃ own, Orderly (parts.after gateway uses) own := by
  induction uses generalizing parts database with
  | nil => exact ⟨database, orderly⟩
  | cons use rest inductionHypothesis =>
      obtain ⟨_, next⟩ := orderly.next loadsSound use
      exact inductionHypothesis next

/-! ## Faults of misuse -/

private theorem systemLabel_ne_runtimeError (number : Int) :
    Fault.systemLabel number ≠ "RuntimeError" := by
  have either : ∀ {p : Prop} [Decidable p] {first second : String},
      first ≠ "RuntimeError" → second ≠ "RuntimeError" →
        (if p then first else second) ≠ "RuntimeError" := by
    intro p _ first second notFirst notSecond
    split <;> assumption
  unfold Fault.systemLabel
  repeat' apply either
  all_goals decide

/-- Only the misuse of an engine has a fault of its class. -/
theorem label_eq_runtimeError_iff (fault : Fault) :
    fault.label = "RuntimeError" ↔ fault = .alreadyStarted ∨ fault = .notStarted := by
  cases fault with
  | rejected rejection => cases rejection <;> simp [Fault.label, Rejection.label]
  | storage own => cases own <;> simp [Fault.label, Storage.StorageFault.label]
  | system own => cases own <;> simp [Fault.label, systemLabel_ne_runtimeError]
  | scalar own => cases own <;> simp [Fault.label]
  | row own => cases own <;> simp [Fault.label]
  | matching own => cases own <;> simp [Fault.label]
  | _ => simp [Fault.label]

/-- A statement on a started database may fail, but not for misuse. -/
theorem Database.not_misuse_of_execute
    (gateway : Gateway σ)
    {database : Database σ}
    (sound : database.Sound)
    (running : database.isStarted = true)
    {sql : String}
    {fault : Fault}
    (failed : (database.execute gateway sql).result = .error fault) :
    fault.label ≠ "RuntimeError" := by
  obtain ⟨catalog, loaded⟩ := Option.isSome_iff_exists.1 running
  have holds : database.Holds ⟨catalog, database.storage⟩ := ⟨loaded, rfl⟩
  obtain ⟨after, _, step⟩ := step_execute gateway holds sql
  have effect := step.effect (sound catalog loaded)
  rw [Ne, label_eq_runtimeError_iff]
  have unreported : ∀ {outcome : Option String → Outcome} {report : Storage.WriteReport σ},
      conclude outcome report = .error fault →
        ¬ (fault = .alreadyStarted ∨ fault = .notStarted) := by
    intro outcome report unanswered
    obtain ⟨own, _, _, rfl⟩ := conclude_eq_error unanswered
    cases own <;> simp [Storage.WriteFault.toFault]
  generalize (database.execute gateway sql).result = result at failed effect
  cases effect with
  | rejected type rejection => cases failed
  | selected parsed found names attributes => cases failed
  | inserted parsed found coerced conforms storable report written => exact unreported failed
  | deleted parsed found report written => exact unreported failed

/-- Whatever keeps tables from being loaded is no misuse. -/
def LoadsWithoutMisuse (gateway : Gateway σ) : Prop :=
  ∀ storage fault, (gateway.load storage).result = .error fault → fault.label ≠ "RuntimeError"

theorem loadsWithoutMisuse_folder (folder : Folder) : LoadsWithoutMisuse folder.gateway := by
  intro workspace fault failed
  have failedLoad : (folder.load workspace).result = .error fault := failed
  rw [Ne, label_eq_runtimeError_iff]
  rcases Folder.load_eq_error failedLoad with (escapes | ⟨_, escapes⟩) | ⟨own, rfl, _⟩
  · cases escapes <;> simp
  · cases escapes <;> simp
  · simp

/-! ## Calls that fail -/

/-- Nothing but log entries and spans has been added. -/
def OnlyLogs (before after : Parts σ) : Prop :=
  ∃ signals, observations signals = [] ∧
    after = { before with signals := before.signals ++ signals }

theorem OnlyLogs.gauge_eq
    {before after : Parts σ}
    (onlyLogs : OnlyLogs before after) :
    after.gauge = before.gauge := by
  obtain ⟨signals, unobserved, rfl⟩ := onlyLogs
  simp only [Parts.gauge, observations_append, unobserved, List.append_nil]

/-- The calls that start and stop an engine. -/
def switches (gateway : Gateway σ) : List (Steps σ Unit) :=
  [.start gateway, .stop, .enter gateway, .exit]

section
variable
  {gateway : Gateway σ}
  {parts : Parts σ}

/-- A failure of such a call changes nothing but the log. -/
theorem onlyLogs_of_failed
    {steps : Steps σ Unit}
    (member : steps ∈ switches gateway)
    {fault : Fault}
    (failed : (steps.perform parts).1 = .error fault) :
    OnlyLogs parts (steps.perform parts).2 := by
  have unchanged : OnlyLogs parts parts := ⟨[], rfl, by rw [List.append_nil]⟩
  have started : ((Steps.start gateway).perform parts).1 = .error fault →
      OnlyLogs parts ((Steps.start gateway).perform parts).2 := by
    rw [Steps.perform_start]
    by_cases running : parts.started = true
    · rw [if_pos running]
      exact fun _ => unchanged
    · rw [if_neg running]
      dsimp only
      cases (gateway.load parts.storage).result with
      | error own => exact fun _ => ⟨_, by simp, rfl⟩
      | ok catalog => exact nofun
  have stopped : (Steps.stop.perform parts).1 = .error fault →
      OnlyLogs parts (Steps.stop.perform parts).2 := by
    rw [Steps.perform_stop]
    by_cases running : parts.started = true
    · rw [if_pos running]
      exact nofun
    · rw [if_neg running]
      exact fun _ => unchanged
  simp only [switches, List.mem_cons, List.not_mem_nil, or_false] at member
  rcases member with rfl | rfl | rfl | rfl
  · exact started failed
  · exact stopped failed
  · exact started failed
  · exact stopped failed

/-- An engine that is not started can be started if its tables can be loaded. -/
theorem start_of_load
    (stopped : parts.started = false)
    {catalog : Catalog}
    (loaded : (gateway.load parts.storage).result = .ok catalog) :
    ((Steps.start gateway).perform parts).1 = .ok () := by
  simp [Steps.perform_start, stopped, loaded]

end

/-! ## Parts in step -/

/-- The parts of an engine tell alike whether it is started: its flag, the catalog, whether it takes
statements, the statistics and the metrics. A start that succeeds leaves the engine started with the
tables just loaded, and a stop that succeeds leaves it without any. A start or a stop that fails
leaves everything but the log as it was, and a later start succeeds if the tables can then be
loaded. -/
structure InStep (gateway : Gateway σ) (parts : Parts σ) : Prop where
  available : parts.started = true ↔ ∃ catalog, (Steps.tables.perform parts).1 = .ok catalog
  takesStatements : ∀ sql, parts.started = true ↔
    ∀ fault, ((Steps.execute gateway sql).perform parts).1 = .error fault →
      fault.label ≠ "RuntimeError"
  listed : parts.started = true ↔ parts.statistics.tables.isSome = true
  counted : ∀ catalog, (Steps.tables.perform parts).1 = .ok catalog →
    parts.gauge = catalog.tables.length
  uncounted : parts.started = false → parts.gauge = 0
  startedBefore : (∃ fault, ((Steps.start gateway).perform parts).1 = .error fault ∧
    fault.label = "RuntimeError") ↔ parts.started = true
  opens : ∀ steps ∈ [Steps.start gateway, .enter gateway], (steps.perform parts).1 = .ok () →
    (steps.perform parts).2.started = true ∧ ∃ catalog,
      (gateway.load parts.storage).result = .ok catalog ∧
        (Steps.tables.perform (steps.perform parts).2).1 = .ok catalog
  closes : ∀ steps ∈ ([.stop, .exit] : List (Steps σ Unit)), (steps.perform parts).1 = .ok () →
    (steps.perform parts).2.started = false ∧
      (Steps.tables.perform (steps.perform parts).2).1 = .error .notStarted
  harmless : ∀ steps ∈ switches gateway, ∀ fault, (steps.perform parts).1 = .error fault →
    OnlyLogs parts (steps.perform parts).2 ∧
      (steps.perform parts).2.gauge = parts.gauge
  restarts : ∀ steps ∈ switches gateway, ∀ fault, (steps.perform parts).1 = .error fault →
    parts.started = false → ∀ change catalog,
      (gateway.load (change parts.storage)).result = .ok catalog →
        ((Steps.start gateway).perform
          ((steps.perform parts).2.next gateway (.outside change))).1 = .ok ()

section
variable
  {parts : Parts σ}
  {database : Database σ}

/-- An engine takes statements exactly if it is started, whether it then answers them or not. -/
theorem Orderly.started_iff_execute
    (orderly : Orderly parts database)
    (gateway : Gateway σ)
    (sql : String) :
    parts.started = true ↔ ∀ fault,
      ((Steps.execute gateway sql).perform parts).1 = .error fault →
        fault.label ≠ "RuntimeError" := by
  obtain ⟨represents, sound, _⟩ := orderly
  rw [(represents.mirrors_execute gateway sql).result, represents.started]
  constructor
  · intro running fault failed
    exact Database.not_misuse_of_execute gateway sound running failed
  · intro noMisuse
    by_contra stopped
    have unloaded : database.catalog = none := by simpa [Database.isStarted] using stopped
    have refused : (database.execute gateway sql).result = .error .notStarted := by
      rw [Database.execute, unloaded]
      rfl
    exact noMisuse _ refused rfl

/-- A start fails for misuse exactly if the engine is started. -/
theorem start_misuse_iff
    {gateway : Gateway σ}
    (withoutMisuse : LoadsWithoutMisuse gateway)
    (parts : Parts σ) :
    (∃ fault, ((Steps.start gateway).perform parts).1 = .error fault ∧
      fault.label = "RuntimeError") ↔ parts.started = true := by
  rw [Steps.perform_start]
  by_cases running : parts.started = true
  · rw [if_pos running]
    exact iff_of_true ⟨.alreadyStarted, rfl, rfl⟩ running
  · rw [if_neg running]
    refine iff_of_false ?_ running
    rintro ⟨fault, failed, misuse⟩
    cases loaded : (gateway.load parts.storage).result with
    | error own =>
        simp only [loaded, Except.error.injEq] at failed
        exact withoutMisuse _ own loaded (failed ▸ misuse)
    | ok catalog => simp [loaded] at failed

/-- A start that succeeds leaves the engine started with the tables just loaded. -/
theorem Represents.opens
    (represents : Represents parts database)
    {gateway : Gateway σ}
    (succeeded : ((Steps.start gateway).perform parts).1 = .ok ()) :
    ((Steps.start gateway).perform parts).2.started = true ∧ ∃ catalog,
      (gateway.load parts.storage).result = .ok catalog ∧
        (Steps.tables.perform ((Steps.start gateway).perform parts).2).1 = .ok catalog := by
  have mirrors := represents.mirrors_start gateway
  obtain ⟨catalog, loaded, held⟩ := holds_start (mirrors.result.symm.trans succeeded)
  refine ⟨?_, catalog, represents.storage ▸ loaded, ?_⟩
  · rw [mirrors.represents.started, Database.isStarted, held.catalog_eq]
    rfl
  · rw [mirrors.represents.tables_eq, Database.loaded_eq_ok_iff]
    exact held.catalog_eq

/-- A stop that succeeds leaves the engine without tables. -/
theorem stopped_of_stop (succeeded : (Steps.stop.perform parts).1 = .ok ()) :
    (Steps.stop.perform parts).2.started = false ∧
      (Steps.tables.perform (Steps.stop.perform parts).2).1 = .error .notStarted := by
  rw [Steps.perform_stop] at succeeded ⊢
  by_cases running : parts.started = true
  · rw [if_pos running]
    exact ⟨rfl, rfl⟩
  · rw [if_neg running] at succeeded
    cases succeeded

/-- Parts in order are in step. -/
theorem Orderly.inStep
    (orderly : Orderly parts database)
    {gateway : Gateway σ}
    (withoutMisuse : LoadsWithoutMisuse gateway) :
    InStep gateway parts := by
  obtain ⟨represents, _, counted⟩ := id orderly
  have started := start_misuse_iff withoutMisuse parts
  refine ⟨?_, orderly.started_iff_execute gateway, ?_, ?_, ?_, started, ?_, ?_, ?_, ?_⟩
  · rw [represents.started, represents.tables_eq]
    exact database.isStarted_iff_loaded
  · rw [represents.started, represents.statistics_eq, Database.statistics, Option.isSome_map,
      Database.isStarted]
  · intro catalog told
    rw [represents.tables_eq, Database.loaded_eq_ok_iff] at told
    rw [counted, Database.tableCount, told]
    rfl
  · intro stopped
    rw [represents.started, Database.isStarted, Option.isSome_eq_false_iff,
      Option.isNone_iff_eq_none] at stopped
    rw [counted, Database.tableCount, stopped]
    rfl
  · intro steps member succeeded
    simp only [List.mem_cons, List.not_mem_nil, or_false] at member
    rcases member with rfl | rfl
    · exact represents.opens succeeded
    · exact represents.opens succeeded
  · intro steps member succeeded
    simp only [List.mem_cons, List.not_mem_nil, or_false] at member
    rcases member with rfl | rfl
    · exact stopped_of_stop succeeded
    · exact stopped_of_stop succeeded
  · exact fun steps member fault failed =>
      ⟨onlyLogs_of_failed member failed, (onlyLogs_of_failed member failed).gauge_eq⟩
  · intro steps member fault failed stopped change catalog loaded
    obtain ⟨signals, _, left⟩ := onlyLogs_of_failed member failed
    rw [left]
    exact start_of_load stopped loaded

end

/-- Whatever an engine over a folder has been used for, and whatever has happened to the workspace
meanwhile, its parts are in step. -/
theorem inStep_after
    (folder : Folder)
    (workspace : Workspace)
    (uses : List (Use Workspace)) :
    InStep folder.gateway ((Parts.new workspace).after folder.gateway uses) := by
  obtain ⟨_, orderly⟩ := (orderly_new workspace).after folder.loadsSound uses
  exact orderly.inStep (loadsWithoutMisuse_folder folder)

/-- A start fails without a schema file. It succeeds once there is one, and then the next one is
refused. -/
example :
    let folder := Folder.usual (.ofString "db")
    let parts := (Parts.new (Folder.sampleWorkspace [])).after folder.gateway
      [.start, .outside fun _ => Folder.sampleWorkspace [("schema.txt", "T(a:Integer)")], .enter]
    parts.started = true ∧ parts.gauge = 1 ∧
      ((Steps.start folder.gateway).perform parts).1.toOption.isNone = true := by
  decide +kernel

end Engine
end FlatTables
