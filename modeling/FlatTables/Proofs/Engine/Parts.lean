import FlatTables.Engine.Parts
import FlatTables.Proofs.Engine.Step

/-!
# The parts of a database

The parts of an engine are set one after the other, and a call may fail between two of them. Parts
that are those of a database are so after any call as well, and the call comes to the same. So they
never get out of step, and what is known of databases is known of their parts.
-/

namespace FlatTables
namespace Engine

open Storage (Gateway)
open Telemetry (Signal Span)

variable {σ : Type}

/-! ## Steps in order -/

namespace Steps

section
variable {α β : Type} (parts : Parts σ)

@[simp]
theorem perform_get : (get : Steps σ (Parts σ)).perform parts = (.ok parts, parts) :=
  rfl

@[simp]
theorem perform_bind
    (first : Steps σ α)
    (next : α → Steps σ β) :
    (first >>= next).perform parts =
      match first.perform parts with
      | (.ok result, after) => (next result).perform after
      | (.error fault, after) => (.error fault, after) := by
  unfold perform
  rw [ExceptT.run_bind, StateT.run_bind]
  rcases (first.run).run parts with ⟨_ | _, after⟩ <;> rfl

end

/-! ## What the steps of a call come to -/

section
variable
  (gateway : Gateway σ)
  (parts : Parts σ)

/-- Loading sets no part, apart from what is loaded. -/
theorem perform_load :
    (load gateway).perform parts =
      let read := (gateway.load parts.storage).events.map Signal.event
      match (gateway.load parts.storage).result with
      | .error fault =>
          (.error fault,
            { parts with
              signals := parts.signals ++
                Signal.inSpan Span.startName read (.start (some fault)) })
      | .ok catalog =>
          (.ok catalog,
            { parts with
              loads := parts.loads ++ [catalog]
              signals := parts.signals ++ Signal.inSpan Span.startName read (.start none) }) := by
  simp only [load, perform_bind, perform_get]
  cases (gateway.load parts.storage).result <;> rfl

/-- A start is refused, or it fails as the load does, or it sets all parts. -/
theorem perform_start :
    (start gateway).perform parts =
      if parts.started then (.error .alreadyStarted, parts)
      else
        let read := (gateway.load parts.storage).events.map Signal.event
        match (gateway.load parts.storage).result with
        | .error fault =>
            (.error fault,
              { parts with
                signals := parts.signals ++
                  Signal.inSpan Span.startName read (.start (some fault)) })
        | .ok catalog =>
            (.ok (),
              { parts with
                loads := parts.loads ++ [catalog]
                catalog := some parts.loads.length
                executor := some parts.loads.length
                started := true
                signals := parts.signals ++ Signal.inSpan Span.startName read (.start none) ++
                  [.observation (.tablesLoaded catalog.tables.length)] ++
                    [.event (.engineStarted catalog.names)] }) := by
  simp only [start, perform_bind, perform_get]
  by_cases running : parts.started = true
  · simp only [if_pos running]
    rfl
  · simp only [if_neg running, perform_bind, perform_get, perform_load]
    cases (gateway.load parts.storage).result <;> rfl

/-- A stop is refused, or it sets all parts. -/
theorem perform_stop :
    stop.perform parts =
      if parts.started then
        (.ok (),
          { parts with
            catalog := none
            executor := none
            started := false
            signals := parts.signals ++ [.observation (.tablesLoaded 0)] ++
              [.event .engineStopped] })
      else (.error .notStarted, parts) := by
  simp only [stop, perform_bind, perform_get]
  cases parts.started <;> rfl

theorem perform_tables :
    tables.perform parts =
      match parts.shown? with
      | some catalog => (.ok catalog, parts)
      | none => (.error .notStarted, parts) := by
  simp only [tables, perform_bind, perform_get]
  cases parts.shown? <;> rfl

theorem perform_execute (sql : String) :
    (execute gateway sql).perform parts =
      match parts.started, parts.executor with
      | true, some place =>
          let turn := (parts.seenFrom place).execute gateway sql
          (turn.result,
            { parts.keepAt place turn.database with signals := parts.signals ++ turn.signals })
      | _, _ => (.error .notStarted, parts) := by
  simp only [execute, perform_bind, perform_get]
  cases parts.started with
  | false => rfl
  | true =>
      cases parts.executor with
      | none => rfl
      | some place =>
          dsimp only
          simp only [perform_bind]
          cases ((parts.seenFrom place).execute gateway sql).result <;> rfl

end

end Steps

/-! ## Parts of a database -/

/-- The parts are those of a database. In particular, what is shown is what the executor works on. -/
structure Represents (parts : Parts σ) (database : Database σ) : Prop where
  storage : parts.storage = database.storage
  shown : parts.shown? = database.catalog
  executor : parts.executor = parts.catalog
  started : parts.started = database.isStarted
  executed : parts.executed = database.executed
  failed : parts.failed = database.failed
  lastStatement : parts.lastStatement = database.lastStatement

/-- Steps on parts come to what a call comes to. -/
structure Mirrors (before : Parts σ) (turn : Turn σ α) (outcome : Except Fault α × Parts σ) :
    Prop where
  result : outcome.1 = turn.result
  represents : Represents outcome.2 turn.database
  signals : outcome.2.signals = before.signals ++ turn.signals

section
variable
  {parts : Parts σ}
  {database : Database σ}
  (represents : Represents parts database)
include represents

/-- Signals are not part of a database. -/
theorem Represents.logged (signals : List Signal) : Represents { parts with signals } database :=
  { represents with }

theorem Represents.mirrors_refuse (fault : Fault) :
    Mirrors parts (database.refuse fault : Turn σ α) (.error fault, parts) :=
  ⟨rfl, represents, (List.append_nil _).symm⟩

theorem Represents.mirrors_start (gateway : Gateway σ) :
    Mirrors parts (database.start gateway) ((Steps.start gateway).perform parts) := by
  rw [Steps.perform_start, Database.start, ← represents.started, ← represents.storage]
  by_cases running : parts.started = true
  · simp only [if_pos running]
    exact represents.mirrors_refuse _
  · simp only [if_neg running]
    cases (gateway.load parts.storage).result with
    | error fault => exact ⟨rfl, represents.logged _, rfl⟩
    | ok catalog =>
        have shown : (parts.loads ++ [catalog])[parts.loads.length]? = some catalog :=
          List.getElem?_concat_length
        refine ⟨rfl, { represents with
          storage := rfl, shown := shown, executor := rfl, started := rfl }, ?_⟩
        simp

theorem Represents.mirrors_stop : Mirrors parts database.stop (Steps.stop.perform parts) := by
  rw [Steps.perform_stop, Database.stop, ← represents.started]
  by_cases running : parts.started = true
  · simp only [if_pos running]
    refine ⟨rfl, { represents with shown := rfl, executor := rfl, started := rfl }, ?_⟩
    simp
  · simp only [if_neg running]
    exact represents.mirrors_refuse _

theorem Represents.tables_eq : (Steps.tables.perform parts).1 = database.loaded := by
  rw [Steps.perform_tables, represents.shown, Database.loaded]
  cases database.catalog <;> rfl

theorem Represents.statistics_eq : parts.statistics = database.statistics := by
  rw [Parts.statistics, represents.started, represents.executed, represents.failed,
    represents.shown, Database.statistics]

/-- The executor sees the database. -/
theorem Represents.seenFrom_eq
    {place : Nat}
    (atPlace : parts.executor = some place) :
    parts.seenFrom place = database := by
  have catalog : parts.loads[place]? = database.catalog := by
    rw [← represents.shown, Parts.shown?, ← represents.executor, atPlace]
    rfl
  obtain ⟨storage, _, executed, failed, lastStatement⟩ := database
  rw [Parts.seenFrom, catalog, represents.storage, represents.executed, represents.failed,
    represents.lastStatement]

theorem Represents.mirrors_execute
    (gateway : Gateway σ)
    (sql : String) :
    Mirrors parts (database.execute gateway sql) ((Steps.execute gateway sql).perform parts) := by
  have sameStart := represents.started
  rw [Steps.perform_execute]
  cases loaded : database.catalog with
  | none =>
      rw [Database.isStarted, loaded] at sameStart
      rw [sameStart, Database.execute, loaded]
      exact represents.mirrors_refuse _
  | some catalog =>
      rw [Database.isStarted, loaded] at sameStart
      obtain ⟨place, atPlace, within⟩ :=
        Option.bind_eq_some_iff.1 (represents.shown.trans loaded)
      have holds : database.Holds ⟨catalog, database.storage⟩ := ⟨loaded, rfl⟩
      obtain ⟨after, held, _⟩ := step_execute gateway holds sql
      have executor := represents.executor.trans atPlace
      rw [sameStart, executor]
      dsimp only [Option.isSome]
      rw [represents.seenFrom_eq executor]
      have kept : (parts.loads.set place after.catalog)[place]? = some after.catalog :=
        List.getElem?_set_self (List.getElem?_eq_some_iff.1 within).1
      refine ⟨rfl, ⟨rfl, ?_, represents.executor, ?_, rfl, rfl, rfl⟩, rfl⟩
      · rw [held.catalog_eq, Parts.shown?]
        dsimp only [Parts.keepAt]
        rw [held.catalog_eq, atPlace]
        exact kept
      · rw [Database.isStarted, held.catalog_eq]
        exact sameStart

end

end Engine
end FlatTables
