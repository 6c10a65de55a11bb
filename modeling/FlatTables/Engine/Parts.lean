import FlatTables.Engine.Database

/-!
# Parts of an engine

The parts that make up an engine, and the steps in which its calls set them one after the other.
Steps leave the parts behind whether they succeed or fail: what was done before a failure stays done.
-/

namespace FlatTables
namespace Engine

open Storage (Gateway)
open Telemetry (Signal Span)

/-- The parts of an engine. Catalogs are referred to by their places among all that were loaded, since
the catalog that is shown is also the one that the executor changes. -/
structure Parts (σ : Type) where
  storage : σ
  loads : List Catalog := []
  catalog : Option Nat := none
  executor : Option Nat := none
  started : Bool := false
  executed : Nat := 0
  failed : Nat := 0
  lastStatement : Nat := 0
  signals : List Signal := []

namespace Parts

variable {σ : Type}

/-- The catalog that is shown. -/
def shown? (parts : Parts σ) : Option Catalog :=
  parts.catalog.bind (parts.loads[·]?)

/-- The database that an executor sees whose catalog stands at a place. -/
def seenFrom (parts : Parts σ) (place : Nat) : Database σ where
  storage := parts.storage
  catalog := parts.loads[place]?
  executed := parts.executed
  failed := parts.failed
  lastStatement := parts.lastStatement

/-- The parts once such an executor has made another database of it. -/
def keepAt (parts : Parts σ) (place : Nat) (database : Database σ) : Parts σ :=
  { parts with
    storage := database.storage
    loads := database.catalog.elim parts.loads (parts.loads.set place)
    executed := database.executed
    failed := database.failed
    lastStatement := database.lastStatement }

/-- The statistics that are told. -/
def statistics (parts : Parts σ) : Statistics where
  started := parts.started
  executed := parts.executed
  failed := parts.failed
  tables := parts.shown?.map Database.sizes

end Parts

/-- Steps on the parts: they end with a result or a fault and leave the parts behind. -/
abbrev Steps (σ α : Type) := ExceptT Fault (StateM (Parts σ)) α

namespace Steps

variable {σ α : Type}

/-- What steps come to, and the parts they leave behind. -/
def perform (steps : Steps σ α) (before : Parts σ) : Except Fault α × Parts σ :=
  steps.run.run before

/-- Give signals. -/
def emit (signals : List Signal) : Steps σ Unit :=
  modify fun parts => { parts with signals := parts.signals ++ signals }

/-- Load a catalog, in a span of its own. -/
def load (gateway : Gateway σ) : Steps σ Catalog := do
  let report := gateway.load (← get).storage
  let read := report.events.map Signal.event
  match report.result with
  | .error fault =>
      emit (Signal.inSpan Span.startName read (.start (some fault)))
      throw fault
  | .ok catalog =>
      emit (Signal.inSpan Span.startName read (.start none))
      modify fun parts => { parts with loads := parts.loads ++ [catalog] }
      return catalog

/-- Load the tables and make an executor for them. -/
def start (gateway : Gateway σ) : Steps σ Unit := do
  if (← get).started then throw .alreadyStarted
  let place := (← get).loads.length
  let catalog ← load gateway
  modify fun parts => { parts with catalog := some place }
  modify fun parts => { parts with executor := some place }
  emit [.observation (.tablesLoaded catalog.tables.length)]
  modify fun parts => { parts with started := true }
  emit [.event (.engineStarted catalog.names)]

/-- Release the tables and the executor. -/
def stop : Steps σ Unit := do
  if !(← get).started then throw .notStarted
  modify fun parts => { parts with catalog := none }
  modify fun parts => { parts with executor := none }
  modify fun parts => { parts with started := false }
  emit [.observation (.tablesLoaded 0)]
  emit [.event .engineStopped]

/-- Tell the catalog that is shown. -/
def tables : Steps σ Catalog := do
  match (← get).shown? with
  | some catalog => return catalog
  | none => throw .notStarted

/-- Execute a statement. -/
def execute (gateway : Gateway σ) (sql : String) : Steps σ Reply := do
  let parts ← get
  match parts.started, parts.executor with
  | true, some place =>
      let turn := (parts.seenFrom place).execute gateway sql
      modify (·.keepAt place turn.database)
      emit turn.signals
      liftExcept turn.result
  | _, _ => throw .notStarted

/-- Enter a context that is to be left by `exit`. -/
def enter (gateway : Gateway σ) : Steps σ Unit :=
  start gateway

/-- Leave a context. -/
def exit : Steps σ Unit :=
  stop

end Steps

/-- One use of an engine, or a change of its storage from outside. -/
inductive Use (σ : Type)
  | start
  | stop
  | execute (sql : String)
  | enter
  | exit
  | outside (change : σ → σ)

namespace Parts

variable {σ : Type}

/-- The parts of a new engine over a storage. -/
def new (storage : σ) : Parts σ where
  storage

/-- The parts after one more use, whether it succeeds or fails. -/
def next (gateway : Gateway σ) (parts : Parts σ) : Use σ → Parts σ
  | .start => ((Steps.start gateway).perform parts).2
  | .stop => (Steps.stop.perform parts).2
  | .execute sql => ((Steps.execute gateway sql).perform parts).2
  | .enter => ((Steps.enter gateway).perform parts).2
  | .exit => (Steps.exit.perform parts).2
  | .outside change => { parts with storage := change parts.storage }

/-- The parts after uses in a row. -/
def after (gateway : Gateway σ) (parts : Parts σ) (uses : List (Use σ)) : Parts σ :=
  uses.foldl (next gateway) parts

end Parts
end Engine
end FlatTables
