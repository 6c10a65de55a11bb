import FlatTables.Engine.Course
import FlatTables.Proofs.Except

/-!
# Where a statement can be rejected

What a step of a statement has changed stays changed. Steps that only read can be rejected at any
time. Once a table has been changed no step rejects the statement any more. So a statement that is
rejected has changed nothing, wherever in its course that happens, and neither has a query.
-/

namespace FlatTables
namespace Engine

open Query (Columns Statement)
open Storage (Gateway WriteReport)
open Telemetry (Context Event Signal Span StatementLabel WriteOperation)

variable {σ α β : Type}

namespace Course

/-! ## Steps in order -/

section
variable (now : Ongoing σ)

@[simp]
theorem perform_pure (result : α) : (pure result : Course σ α).perform now = (.ok result, now) :=
  rfl

@[simp]
theorem perform_throw (fault : Fault) :
    (throw fault : Course σ α).perform now = (.error fault, now) :=
  rfl

@[simp]
theorem perform_get : (get : Course σ (Ongoing σ)).perform now = (.ok now, now) :=
  rfl

@[simp]
theorem perform_modify (change : Ongoing σ → Ongoing σ) :
    (modify change : Course σ Unit).perform now = (.ok (), change now) :=
  rfl

@[simp]
theorem perform_emit (signals : List Signal) :
    (emit signals).perform now = (.ok (), giving signals now) :=
  rfl

@[simp]
theorem perform_alter (change : Database σ → Database σ) :
    (alter change).perform now = (.ok (), { now with database := change now.database }) :=
  rfl

@[simp]
theorem perform_liftExcept (step : Except Fault α) :
    (liftExcept step : Course σ α).perform now = (step, now) := by
  cases step <;> rfl

@[simp]
theorem perform_outcomeOf (course : Course σ α) :
    (outcomeOf course).perform now = (.ok (course.perform now).1, (course.perform now).2) :=
  rfl

@[simp]
theorem perform_bind
    (first : Course σ α)
    (next : α → Course σ β) :
    (first >>= next).perform now =
      match first.perform now with
      | (.ok result, after) => (next result).perform after
      | (.error fault, after) => (.error fault, after) := by
  unfold perform
  rw [ExceptT.run_bind, StateT.run_bind]
  rcases (first.run).run now with ⟨_ | _, after⟩ <;> rfl

@[simp]
theorem perform_map
    (f : α → β)
    (course : Course σ α) :
    (f <$> course).perform now = ((course.perform now).1.map f, (course.perform now).2) := by
  rw [← bind_pure_comp, perform_bind]
  rcases course.perform now with ⟨_ | _, after⟩ <;> rfl

@[simp]
theorem perform_inSpan
    (name : String)
    (span : Except Fault α → Span)
    (course : Course σ α) :
    (inSpan name span course).perform now =
      let ended := course.perform (giving [.opening name] now)
      (ended.1, giving [.span (span ended.1)] ended.2) := by
  simp [inSpan]

@[simp]
theorem perform_inContext
    (context : Context)
    (course : Course σ α) :
    (inContext context course).perform now =
      let ended := course.perform { now with context := some context }
      (ended.1, { ended.2 with context := none }) := by
  simp [inContext]

@[simp]
theorem perform_record
    (label : StatementLabel)
    (reply : Reply) :
    (record label reply).perform now =
      (.ok (), giving (Database.closing label reply)
        { now with database := now.database.count reply }) := by
  simp [record]

end

/-! ## Where a statement can be rejected -/

/-- The tables and the storage are the same. -/
structure Untouched (before after : Ongoing σ) : Prop where
  catalog : after.database.catalog = before.database.catalog
  storage : after.database.storage = before.database.storage

theorem Untouched.refl (now : Ongoing σ) : Untouched now now :=
  ⟨rfl, rfl⟩

theorem Untouched.trans
    {before middle after : Ongoing σ}
    (first : Untouched before middle)
    (second : Untouched middle after) :
    Untouched before after :=
  ⟨second.catalog.trans first.catalog, second.storage.trans first.storage⟩

/-- The steps change no table and nothing in the storage, whatever they come to. -/
def Reads (course : Course σ α) : Prop :=
  ∀ before, Untouched before (course.perform before).2

/-- The steps do not reject the statement. -/
def NeverRejects (course : Course σ α) : Prop :=
  ∀ before rejection, (course.perform before).1 ≠ .error (.rejected rejection)

/-- If the steps reject the statement, they have changed no table and nothing in the storage. -/
def RejectsUntouched (course : Course σ α) : Prop :=
  ∀ before rejection, (course.perform before).1 = .error (.rejected rejection) →
    Untouched before (course.perform before).2

/-- What the steps come to has a property whenever they succeed. -/
def EndsIn (holds : α → Prop) (course : Course σ α) : Prop :=
  ∀ before result, (course.perform before).1 = .ok result → holds result

theorem EndsIn.pure
    {holds : α → Prop}
    {result : α}
    (own : holds result) :
    EndsIn holds (Pure.pure result : Course σ α) := by
  intro before other ended
  rw [perform_pure] at ended
  exact Except.ok.inj ended ▸ own

theorem EndsIn.bind
    {holds : β → Prop}
    {first : Course σ α}
    {next : α → Course σ β}
    (later : ∀ result, EndsIn holds (next result)) :
    EndsIn holds (first >>= next) := by
  intro before result ended
  rw [perform_bind] at ended
  generalize first.perform before = ending at ended
  obtain ⟨_ | own, middle⟩ := ending
  · cases ended
  · exact later own middle result ended

theorem Reads.rejectsUntouched
    {course : Course σ α}
    (reads : Reads course) :
    RejectsUntouched course :=
  fun before _ _ => reads before

theorem NeverRejects.rejectsUntouched
    {course : Course σ α}
    (never : NeverRejects course) :
    RejectsUntouched course :=
  fun before rejection rejected => absurd rejected (never before rejection)

theorem Reads.bind
    {first : Course σ α}
    {next : α → Course σ β}
    (reads : Reads first)
    (later : ∀ result, Reads (next result)) :
    Reads (first >>= next) := by
  intro before
  have own := reads before
  rw [perform_bind]
  generalize first.perform before = ending at own
  obtain ⟨_ | result, middle⟩ := ending
  · exact own
  · exact own.trans (later result middle)

theorem NeverRejects.bind
    {first : Course σ α}
    {next : α → Course σ β}
    (never : NeverRejects first)
    (later : ∀ result, NeverRejects (next result)) :
    NeverRejects (first >>= next) := by
  intro before rejection
  have own := never before rejection
  rw [perform_bind]
  generalize first.perform before = ending at own
  obtain ⟨fault | result, middle⟩ := ending
  · exact fun rejected => own (congrArg Except.error (Except.error.inj rejected))
  · exact later result middle rejection

/-- What comes after steps that only read may be rejected as long as nothing has been changed. -/
theorem Reads.bind_rejectsUntouched
    {first : Course σ α}
    {next : α → Course σ β}
    (reads : Reads first)
    (later : ∀ result, RejectsUntouched (next result)) :
    RejectsUntouched (first >>= next) := by
  intro before rejection rejected
  have own := reads before
  rw [perform_bind] at rejected ⊢
  generalize first.perform before = ending at own rejected
  obtain ⟨_ | result, middle⟩ := ending
  · exact own
  · exact own.trans (later result middle rejection rejected)

/-- What comes after steps that change something must not be rejected. -/
theorem RejectsUntouched.bind_neverRejects
    {first : Course σ α}
    {next : α → Course σ β}
    (untouched : RejectsUntouched first)
    (later : ∀ result, NeverRejects (next result)) :
    RejectsUntouched (first >>= next) := by
  intro before rejection rejected
  have own := untouched before rejection
  rw [perform_bind] at rejected ⊢
  generalize first.perform before = ending at own rejected
  obtain ⟨fault | result, middle⟩ := ending
  · exact own (congrArg Except.error (Except.error.inj rejected))
  · exact absurd rejected (later result middle rejection)

/-! ### Single steps -/

theorem reads_pure (result : α) : Reads (pure result : Course σ α) :=
  fun before => .refl before

theorem reads_get : Reads (get : Course σ (Ongoing σ)) :=
  fun before => .refl before

theorem reads_liftExcept (step : Except Fault α) : Reads (liftExcept step : Course σ α) := by
  intro before
  rw [perform_liftExcept]
  exact .refl before

theorem reads_emit (signals : List Signal) : Reads (emit signals : Course σ Unit) :=
  fun _ => ⟨rfl, rfl⟩

theorem reads_resolve (name : String) : Reads (resolve name : Course σ Table) :=
  reads_get.bind fun _ => (reads_liftExcept _).bind fun _ => reads_liftExcept _

theorem neverRejects_pure (result : α) : NeverRejects (pure result : Course σ α) := by
  intro before rejection
  simp

theorem neverRejects_get : NeverRejects (get : Course σ (Ongoing σ)) := by
  intro before rejection
  simp

theorem neverRejects_modify (change : Ongoing σ → Ongoing σ) :
    NeverRejects (modify change : Course σ Unit) := by
  intro before rejection
  simp

theorem neverRejects_liftExcept
    {step : Except Fault α}
    (never : ∀ rejection, step ≠ .error (.rejected rejection)) :
    NeverRejects (liftExcept step : Course σ α) := by
  intro before rejection
  rw [perform_liftExcept]
  exact never rejection

/-- A change of a table fails for a row that does not fit, which is no rejection. -/
theorem neverRejects_change
    (table : Table)
    (update : Update) :
    NeverRejects (change table update : Course σ Table) := by
  unfold change
  refine (neverRejects_modify _).bind fun _ => ?_
  refine (neverRejects_liftExcept fun rejection => ?_).bind fun _ => neverRejects_pure _
  cases (update.perform table).1 <;> simp

/-- A write that fails is reported, or its failure passes on as it is. -/
theorem neverRejects_persist
    (operation : WriteOperation)
    (table : Table)
    (write : σ → WriteReport σ) :
    NeverRejects (persist operation table write) := by
  unfold persist
  refine neverRejects_get.bind fun now => ?_
  refine (neverRejects_modify _).bind fun _ => ?_
  refine (neverRejects_modify _).bind fun _ => ?_
  cases (write now.database.storage).result with
  | ok state => exact neverRejects_pure _
  | error fault =>
      dsimp only
      cases reported : fault.reported? with
      | some message => exact (neverRejects_modify _).bind fun _ => neverRejects_pure _
      | none =>
          intro before rejection
          cases fault <;> simp [Storage.WriteFault.toFault]

theorem neverRejects_complete
    (operation : WriteOperation)
    (table : Table)
    (write : σ → WriteReport σ)
    (outcome : String → Option String → Outcome)
    (event : String → Bool → Event) :
    NeverRejects (complete operation table write outcome event) := by
  unfold complete
  refine (neverRejects_persist operation table write).bind fun failure => ?_
  refine (neverRejects_modify _).bind fun _ => ?_
  exact (neverRejects_modify _).bind fun _ => neverRejects_pure _

/-! ### Statements -/

/-- A query reads. -/
theorem reads_select
    (columns : Columns)
    (name : String)
    (condition : Option Condition) :
    Reads (select columns name condition : Course σ Outcome) := by
  unfold select orReject
  refine (reads_resolve name).bind fun source => ?_
  refine (reads_liftExcept _).bind fun ordinals => ?_
  refine (reads_liftExcept _).bind fun _ => ?_
  refine (reads_liftExcept _).bind fun schema => ?_
  refine (reads_liftExcept _).bind fun bound => ?_
  refine (reads_liftExcept _).bind fun sifted => ?_
  refine (reads_liftExcept _).bind fun rows => ?_
  refine (reads_liftExcept _).bind fun result => ?_
  exact (reads_emit _).bind fun _ => reads_pure _

section
variable
  (gateway : Gateway σ)
  (name : String)

/-- An insertion is rejected before the row is added. -/
theorem rejectsUntouched_insert (attributes literals : List String) :
    RejectsUntouched (insert gateway name attributes literals) := by
  unfold insert orReject
  refine (reads_resolve name).bind_rejectsUntouched fun table => ?_
  refine (reads_liftExcept _).bind_rejectsUntouched fun _ => ?_
  refine (reads_liftExcept _).bind_rejectsUntouched fun row => ?_
  refine (reads_liftExcept _).bind_rejectsUntouched fun _ => ?_
  -- from here on the row is in the table
  apply NeverRejects.rejectsUntouched
  exact (neverRejects_change table _).bind fun grown => neverRejects_complete _ grown _ _ _

/-- A deletion is rejected before any row is dropped. -/
theorem rejectsUntouched_delete (condition : Option Condition) :
    RejectsUntouched (delete gateway name condition) := by
  have dropping : ∀ table, RejectsUntouched (drop table condition : Course σ Table) := by
    intro table
    cases condition with
    | none => exact (neverRejects_change table .truncate).rejectsUntouched
    | some condition =>
        refine (reads_liftExcept _).bind_rejectsUntouched fun bound => ?_
        refine (reads_liftExcept _).bind_rejectsUntouched fun sifted => ?_
        exact (neverRejects_change table _).rejectsUntouched
  unfold delete
  refine (reads_resolve name).bind_rejectsUntouched fun table => ?_
  exact (dropping table).bind_neverRejects fun shrunk => neverRejects_complete _ shrunk _ _ _

/-- A statement that is rejected has changed nothing. -/
theorem rejectsUntouched_carryOut (statement : Statement) :
    RejectsUntouched (carryOut gateway statement) := by
  cases statement with
  | select columns name condition => exact (reads_select columns name condition).rejectsUntouched
  | insert name attributes literals => exact rejectsUntouched_insert gateway name attributes literals
  | delete name condition => exact rejectsUntouched_delete gateway name condition

/-- What an accepted statement comes to is of its own type. -/
theorem endsIn_carryOut (statement : Statement) :
    EndsIn (·.type = statement.type) (carryOut gateway statement) := by
  have completed : ∀ operation table (write : σ → WriteReport σ) outcome event type,
      (∀ name failure, (outcome name failure).type = type) →
        EndsIn (·.type = type) (complete operation table write outcome event) := by
    intro operation table write outcome event type same
    exact .bind fun failure => .bind fun _ => .bind fun _ => .pure (same _ failure)
  cases statement with
  | select columns name condition =>
      unfold carryOut select
      iterate 9 refine .bind fun _ => ?_
      exact .pure rfl
  | insert name attributes literals =>
      unfold carryOut insert
      iterate 5 refine .bind fun _ => ?_
      exact completed _ _ _ _ _ _ fun _ _ => rfl
  | delete name condition =>
      unfold carryOut delete
      iterate 2 refine .bind fun _ => ?_
      exact completed _ _ _ _ _ _ fun _ _ => rfl

end

/-! ### Texts -/

/-- Counting a statement changes neither tables nor storage. -/
theorem reads_record
    (label : StatementLabel)
    (reply : Reply) :
    Reads (record label reply : Course σ Unit) :=
  Reads.bind (fun _ => ⟨rfl, rfl⟩) fun _ => reads_emit _

section
variable
  (gateway : Gateway σ)
  {before : Ongoing σ}
  {reply : Reply}
  (idle : reply.rejection?.isSome ∨ reply.type? = some .select)
include idle

/-- A statement that gets such a reply has changed nothing. -/
theorem untouched_of_carryOut
    {statement : Statement}
    (replied : Database.replyTo statement.type ((carryOut gateway statement).perform before).1 =
      .ok reply) :
    Untouched before ((carryOut gateway statement).perform before).2 := by
  cases result : ((carryOut gateway statement).perform before).1 with
  | error fault =>
      rw [result] at replied
      cases fault with
      | rejected rejection => exact rejectsUntouched_carryOut gateway statement before rejection result
      | _ => cases replied
  | ok outcome =>
      rw [result] at replied
      obtain rfl := Except.ok.inj replied
      have own : outcome.type = statement.type := endsIn_carryOut gateway statement before _ result
      have query : statement.type = .select := by
        simpa [Reply.rejection?, Reply.type?, own] using idle
      cases statement with
      | select columns name condition => exact reads_select columns name condition before
      | insert name attributes literals => cases query
      | delete name condition => cases query

/-- A text that gets such a reply has changed nothing. -/
theorem untouched_of_answer
    {sql : String}
    (answered : ((answer gateway sql).perform before).1 = .ok reply) :
    Untouched before ((answer gateway sql).perform before).2 := by
  unfold answer at answered ⊢
  cases parsed : Statement.parse sql with
  | error rejection =>
      refine Reads.bind (reads_emit _) (fun _ => ?_) before
      refine (reads_record _ _).bind fun _ => ?_
      exact (reads_emit _).bind fun _ => reads_pure _
  | ok statement =>
      simp only [parsed, perform_bind, perform_emit, perform_outcomeOf, perform_inSpan,
        perform_liftExcept, perform_record] at answered ⊢
      generalize opened : giving [.opening (Span.statementName statement.type)]
        (giving [.span (.parse none)] (giving [.opening Span.parseName] before)) = middle
        at answered ⊢
      have first : Untouched before middle := opened ▸ ⟨rfl, rfl⟩
      cases replied : Database.replyTo statement.type
          ((carryOut gateway statement).perform middle).1 with
      | error fault => simp [replied] at answered
      | ok own =>
          rw [replied] at answered
          obtain rfl : own = reply := by simpa using answered
          have second := untouched_of_carryOut gateway idle replied
          exact first.trans ⟨second.catalog, second.storage⟩

/-- A text that gets such a reply when it is executed has changed nothing. -/
theorem untouched_of_execute
    {sql : String}
    (answered : ((execute gateway sql).perform before).1 = .ok reply) :
    Untouched before ((execute gateway sql).perform before).2 := by
  unfold execute at answered ⊢
  rw [perform_bind, perform_get] at answered ⊢
  by_cases started : before.database.isStarted
  · simp only [started, if_true, perform_bind, perform_alter, perform_inContext] at answered ⊢
    have own := untouched_of_answer gateway idle answered
    exact ⟨own.catalog, own.storage⟩
  · simp [started] at answered

end

end Course
end Engine
end FlatTables
