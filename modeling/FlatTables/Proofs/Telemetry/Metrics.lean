import FlatTables.Telemetry.Signal
import Mathlib.Algebra.GroupWithZero.Nat

/-!
# What metrics count

Metrics of observations made one after the other add up. The samples with a name and some labels sum
up to how many observations of a kind there are, or to how many rows these tell of, whatever was
observed besides.
-/

namespace FlatTables
namespace Telemetry

open Query (StatementType)

/-! ## Observations among signals -/

@[simp]
theorem observations_append (signals later : List Signal) :
    observations (signals ++ later) = observations signals ++ observations later :=
  List.filterMap_append

/-- The context of a statement does not matter for its observations. -/
@[simp]
theorem observations_within
    (context : Context)
    (signals : List Signal) :
    observations (signals.map (Signal.within context)) = observations signals := by
  rw [observations, List.filterMap_map]
  refine congrArg (List.filterMap · signals) (funext fun signal => ?_)
  cases signal <;> rfl

/-- Events are not observations. -/
@[simp]
theorem observations_events (events : List Event) :
    observations (events.map Signal.event) = [] := by
  rw [observations, List.filterMap_map, List.filterMap_eq_nil_iff]
  exact fun event _ => rfl

/-- A span adds no observation to those that arise in it. -/
@[simp]
theorem observations_inSpan
    (name : String)
    (signals : List Signal)
    (span : Span) :
    observations (Signal.inSpan name signals span) = observations signals := by
  simp [observations, Signal.inSpan]

/-! ## Kinds of observations -/

namespace Observation

/-- The observation is that of a statement that succeeded or that failed. -/
def isStatement (success : Bool) : Observation → Bool
  | .statement _ own => own == success
  | _ => false

/-- The observation is how many tables are loaded. -/
def isLoad : Observation → Bool
  | .tablesLoaded _ => true
  | _ => false

end Observation

namespace Metrics

/-! ## Sums -/

theorem rowsAffected_cons
    (observation : Observation)
    (rest : List Observation)
    (type : StatementType) :
    rowsAffected (observation :: rest) type =
      rowsAffected [observation] type + rowsAffected rest type := by
  simp [rowsAffected]

theorem rowsAffected_append
    (observations later : List Observation)
    (type : StatementType) :
    rowsAffected (observations ++ later) type =
      rowsAffected observations type + rowsAffected later type := by
  induction observations with
  | nil => simp [rowsAffected]
  | cons first rest inductionHypothesis =>
      rw [List.cons_append, rowsAffected_cons, inductionHypothesis, rowsAffected_cons first rest,
        Nat.add_assoc]

theorem writeFailures_append
    (observations later : List Observation)
    (operation : WriteOperation) :
    writeFailures (observations ++ later) operation =
      writeFailures observations operation + writeFailures later operation :=
  List.countP_append

/-! ## Loaded tables -/

/-- The last number of tables that was observed counts. -/
theorem tablesLoaded_append_load
    (observations : List Observation)
    (tables : Nat) :
    tablesLoaded (observations ++ [.tablesLoaded tables]) = tables := by
  simp [tablesLoaded]

/-- Other observations do not matter for it. -/
theorem tablesLoaded_append_other
    (observations : List Observation)
    {later : List Observation}
    (other : ∀ observation ∈ later, observation.isLoad = false) :
    tablesLoaded (observations ++ later) = tablesLoaded observations := by
  unfold tablesLoaded
  rw [List.reverse_append, List.findSome?_append, List.findSome?_eq_none_iff.2, Option.none_or]
  intro observation member
  have own := other observation (List.mem_reverse.1 member)
  cases observation with
  | tablesLoaded tables => cases own
  | statement => rfl
  | rowsAffected => rfl
  | writeFailure => rfl

/-! ## Samples -/

/-- The sum of the samples with a name that have some labels, among others. -/
def total (samples : List Sample) (name : String) (labels : List (String × String)) : Nat :=
  ((samples.filter fun sample =>
    sample.name = name ∧ ∀ label ∈ labels, label ∈ sample.labels).map Sample.value).sum

theorem total_append
    (first second : List Sample)
    (name : String)
    (labels : List (String × String)) :
    total (first ++ second) name labels = total first name labels + total second name labels := by
  simp [total]

theorem total_flatMap
    {α : Type}
    (list : List α)
    (samples : α → List Sample)
    (name : String)
    (labels : List (String × String)) :
    total (list.flatMap samples) name labels =
      (list.map fun own => total (samples own) name labels).sum := by
  induction list with
  | nil => rfl
  | cons own rest inductionHypothesis =>
      rw [List.flatMap_cons, total_append, inductionHypothesis, List.map_cons, List.sum_cons]

theorem total_singleton
    (sample : Sample)
    (name : String)
    (labels : List (String × String)) :
    total [sample] name labels =
      if sample.name = name ∧ ∀ label ∈ labels, label ∈ sample.labels then sample.value else 0 := by
  unfold total
  by_cases matching : sample.name = name ∧ ∀ label ∈ labels, label ∈ sample.labels
  · rw [if_pos matching, List.filter_cons_of_pos (by simpa using matching)]
    simp
  · rw [if_neg matching, List.filter_cons_of_neg (by simpa using matching)]
    simp

theorem total_counted
    (name : String)
    (own : List (String × String))
    (value : Nat)
    (other : String)
    (labels : List (String × String)) :
    total (counted name own value) other labels =
      if name = other ∧ ∀ label ∈ labels, label ∈ own then value else 0 := by
  unfold counted
  by_cases zero : value = 0
  · simp [zero, total]
  · rw [if_neg zero, total_singleton]

/-- Every statement has one of the labels. -/
theorem sum_statements
    (observations : List Observation)
    (success : Bool) :
    (Metrics.labels.map fun label => statements observations label success).sum =
      observations.countP (Observation.isStatement success) := by
  induction observations with
  | nil => rfl
  | cons first rest inductionHypothesis =>
      rw [List.countP_cons, ← inductionHypothesis]
      simp only [statements, List.countP_cons, Metrics.labels, List.map_cons, List.map_nil,
        List.sum_cons, List.sum_nil]
      rcases first with ⟨_ | ⟨_ | _ | _⟩, own⟩ | _ | _ | _ <;>
        simp [Observation.isStatement] <;> omega

/-- The samples of statements sum up to the number of statements. -/
theorem total_statements (observations : List Observation) :
    total (samples observations) "query_statements_total" [] =
      observations.countP (Observation.isStatement false) +
        observations.countP (Observation.isStatement true) := by
  rw [← sum_statements, ← sum_statements]
  simp only [samples, total_append, total_flatMap, total_singleton, total_counted]
  simp [types, Metrics.labels]
  omega

/-- The samples of statements with an error sum up to the number of those that failed. -/
theorem total_rejections (observations : List Observation) :
    total (samples observations) "query_statements_total" [("status", "error")] =
      observations.countP (Observation.isStatement false) := by
  rw [← sum_statements]
  simp only [samples, total_append, total_flatMap, total_singleton, total_counted]
  simp [types, Metrics.labels, statusName]

/-- The sample of a statement type is the number of rows of its statements. -/
theorem total_rowsAffected
    (observations : List Observation)
    (type : StatementType) :
    total (samples observations) "query_rows_affected_total" [("statement", type.name)] =
      rowsAffected observations type := by
  simp only [samples, total_append, total_flatMap, total_singleton, total_counted]
  cases type <;> simp [types, Metrics.labels, StatementType.name]

/-- The sample of a write operation is the number of its failures. -/
theorem total_writeFailures
    (observations : List Observation)
    (operation : WriteOperation) :
    total (samples observations) "query_persistence_failures_total"
        [("operation", operation.name)] =
      writeFailures observations operation := by
  simp only [samples, total_append, total_flatMap, total_singleton, total_counted]
  cases operation <;> simp [types, Metrics.labels, WriteOperation.name]

/-- The sample of loaded tables is how many there are. -/
theorem total_tablesLoaded (observations : List Observation) :
    total (samples observations) "query_tables_loaded" [] = tablesLoaded observations := by
  simp only [samples, total_append, total_flatMap, total_singleton, total_counted]
  simp [types, Metrics.labels]

end Metrics
end Telemetry
end FlatTables
