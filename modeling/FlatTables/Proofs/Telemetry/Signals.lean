import FlatTables.Telemetry.Signal

/-!
# Entries and spans among signals

What is logged and which spans are finished can be read off the parts of a run of signals. The fields
of an entry tell its statement exactly if it has the context of one. A span that is finished before
the next one opens lies in the span that was open before both.
-/

namespace FlatTables
namespace Telemetry

/-! ## Fields -/

/-- No event has the number or the text of a statement among its own fields. -/
theorem Event.lookup_fields_eq_none (event : Event) :
    event.fields.lookup "statement_id" = none ∧ event.fields.lookup "sql" = none := by
  cases event <;> exact ⟨rfl, rfl⟩

namespace Entry

/-- An entry has a number exactly if it has the context of a statement, and then it is that of the
statement. -/
theorem lookup_statement_id (entry : Entry) :
    entry.fields.lookup "statement_id" =
      entry.context.map fun context => .number context.statement := by
  simp only [fields, List.lookup_append, entry.event.lookup_fields_eq_none.1]
  cases entry.context <;> rfl

/-- So it is with the text. -/
theorem lookup_sql (entry : Entry) :
    entry.fields.lookup "sql" = entry.context.map fun context => .text context.sql := by
  simp only [fields, List.lookup_append, entry.event.lookup_fields_eq_none.2]
  cases entry.context <;> rfl

@[simp]
theorem lookup_event (entry : Entry) :
    entry.fields.lookup "event" = some (.text entry.event.name) :=
  rfl

/-- An entry shows that a statement was rejected, and the kind of the rejection, exactly if this is
its event. -/
theorem shows_rejection_iff
    (entry : Entry)
    (kind : String) :
    (entry.fields.lookup "event" = some (.text "statement_rejected") ∧
        entry.fields.lookup "error" = some (.text kind)) ↔
      ∃ statement message, entry.event = .statementRejected statement kind message := by
  obtain ⟨event, context⟩ := entry
  rw [lookup_event]
  cases event with
  | statementRejected statement error message =>
      simp [fields, Event.name, Event.fields, List.lookup_cons]
  | _ => simp [Event.name]

end Entry

/-! ## Entries -/

section
variable (threshold : Nat)

@[simp]
theorem entries_nil : entries threshold [] = [] :=
  rfl

@[simp]
theorem entries_append (signals later : List Signal) :
    entries threshold (signals ++ later) = entries threshold signals ++ entries threshold later :=
  List.filterMap_append

/-- A span adds no entry to those that arise in it. -/
@[simp]
theorem entries_inSpan
    (name : String)
    (signals : List Signal)
    (span : Span) :
    entries threshold (Signal.inSpan name signals span) = entries threshold signals := by
  simp [entries, Signal.inSpan]

/-- The context of a statement goes into all entries. -/
@[simp]
theorem entries_within
    (context : Context)
    (signals : List Signal) :
    entries threshold (signals.map (Signal.within context)) =
      (entries threshold signals).map fun entry => { entry with context := some context } := by
  unfold entries
  rw [List.filterMap_map, List.map_filterMap]
  apply congrArg (List.filterMap · signals)
  funext signal
  cases signal with
  | log entry =>
      simp only [Function.comp_apply, Signal.within]
      split <;> rfl
  | opening name => rfl
  | span span => rfl
  | observation observation => rfl

end

/-! ## Spans -/

/-- The rejection that a span is marked for. -/
def Span.rejection? : Span → Option Rejection
  | .parse rejection => rejection
  | .statement _ _ (.failed (.rejected rejection)) => some rejection
  | _ => none

/-- A span has the status of an error and the kind of a rejection exactly if it is marked for a
rejection of this kind. -/
theorem Span.marked_iff
    (span : Span)
    (kind : String) :
    (span.status = "ERROR" ∧ span.attributes.lookup "query.error" = some (.text kind)) ↔
      ∃ rejection, span.rejection? = some rejection ∧ rejection.kind = kind := by
  cases span with
  | start fault => simp [attributes, rejection?]
  | parse rejection =>
      cases rejection <;>
        simp [status, failure?, attributes, rejectionAttributes, rejection?]
  | statement type table outcome =>
      cases outcome with
      | done affectedRows persisted =>
          simp [attributes, outcomeAttributes, rejection?, List.lookup_cons]
      | failed fault =>
          cases fault <;>
            simp [status, failure?, attributes, outcomeAttributes, rejectionAttributes,
              rejection?, List.lookup_cons]

/-- The context of a statement does not matter for its spans. -/
@[simp]
theorem enclosedSpans_within
    (context : Context)
    (signals : List Signal)
    (opened : List String) :
    enclosedSpans opened (signals.map (Signal.within context)) = enclosedSpans opened signals := by
  induction signals generalizing opened with
  | nil => rfl
  | cons signal rest inductionHypothesis =>
      cases signal with
      | log entry => exact inductionHypothesis opened
      | opening name => exact inductionHypothesis (name :: opened)
      | span span => exact congrArg (_ :: ·) (inductionHypothesis opened.tail)
      | observation observation => exact inductionHypothesis opened

/-- The finished spans are those among the signals, whatever was open before. -/
theorem map_fst_enclosedSpans
    (signals : List Signal)
    (opened : List String) :
    (enclosedSpans opened signals).map Prod.fst = spans signals := by
  induction signals generalizing opened with
  | nil => rfl
  | cons signal rest inductionHypothesis =>
      cases signal with
      | log entry => exact inductionHypothesis opened
      | opening name => exact inductionHypothesis (name :: opened)
      | span span => exact congrArg (_ :: ·) (inductionHypothesis opened.tail)
      | observation observation => exact inductionHypothesis opened

/-- A signal that arises while something is done in one span: an observation, or an event of some
kind that is not yet known to belong to a statement. -/
inductive Signal.Plain (kind : Event → Prop) : Signal → Prop
  | event {event : Event} (ofKind : kind event) : Plain kind (.event event)
  | observation (observation : Observation) : Plain kind (.observation observation)

section
variable
  {kind : Event → Prop}
  {signals : List Signal}
  (plain : ∀ signal ∈ signals, signal.Plain kind)
include plain

/-- Plain signals leave the open spans open. -/
theorem enclosedSpans_append_of_plain
    (later : List Signal)
    (opened : List String) :
    enclosedSpans opened (signals ++ later) = enclosedSpans opened later := by
  induction signals with
  | nil => rfl
  | cons signal rest inductionHypothesis =>
      rw [List.forall_mem_cons] at plain
      obtain ⟨first, others⟩ := plain
      cases first with
      | event ofKind => exact inductionHypothesis others
      | observation observation => exact inductionHypothesis others

/-- A span around plain signals lies in the span that was open before. -/
theorem enclosedSpans_inSpan_append
    (name : String)
    (span : Span)
    (later : List Signal)
    (opened : List String) :
    enclosedSpans opened (Signal.inSpan name signals span ++ later) =
      (span, opened.head?) :: enclosedSpans opened later := by
  simp only [Signal.inSpan, List.cons_append, List.append_assoc, enclosedSpans]
  rw [enclosedSpans_append_of_plain plain]
  rfl

theorem enclosedSpans_inSpan
    (name : String)
    (span : Span)
    (opened : List String) :
    enclosedSpans opened (Signal.inSpan name signals span) = [(span, opened.head?)] := by
  simpa [enclosedSpans] using enclosedSpans_inSpan_append plain name span [] opened

/-- The entries of plain signals are of the kind, and belong to no statement. -/
theorem of_mem_entries_of_plain
    {threshold : Nat}
    {entry : Entry}
    (member : entry ∈ entries threshold signals) :
    kind entry.event ∧ entry.context = none := by
  obtain ⟨signal, inSignals, selected⟩ := List.mem_filterMap.1 member
  cases plain signal inSignals with
  | event ofKind =>
      simp only [Signal.event, Option.ite_none_right_eq_some] at selected
      obtain ⟨_, same⟩ := selected
      cases same
      exact ⟨ofKind, rfl⟩
  | observation observation => cases selected

end

end Telemetry
end FlatTables
