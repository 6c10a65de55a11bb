import FlatTables.Engine.Execution
import FlatTables.Proofs.Engine.Plan
import FlatTables.Proofs.Evaluation
import FlatTables.Storage.Journal

/-!
# What queries return

A query is rejected for the first of four reasons that applies: there is no such table, a listed
column is not in the table, a column is listed twice, or the schema refuses the condition. Every
other query returns the rows that meet the condition, each cut down to the listed columns, and no
query changes anything.
-/

namespace FlatTables
namespace Engine

open Query (Columns)
open Storage (Gateway Journal)

variable {σ : Type}

namespace Plan

/-! ## Steps that reject -/

theorem resolve_eq_error_iff
    (catalog : Catalog)
    (name : String)
    (rejection : Rejection) :
    catalog.resolve name = .error rejection ↔
      catalog.Lacks name ∧ rejection = .tableNotFound name := by
  rw [← catalog.find?_eq_none_iff, Catalog.resolve]
  cases catalog.find? name <;> simp [eq_comm]

/-- The first name that is not in the schema is rejected. -/
theorem ordinals_eq_error_iff
    (schema : Schema)
    (names : List String)
    (rejection : Rejection) :
    ordinals schema names = .error rejection ↔
      ∃ name, Reached (· ∈ schema.names) names name ∧
        name ∉ schema.names ∧ rejection = .unknownAttribute name := by
  induction names with
  | nil => simp [ordinals]
  | cons name rest inductionHypothesis =>
      rw [ordinals_cons, exists_reached_cons_iff, ← inductionHypothesis,
        ← schema.indexOf?_eq_none_iff]
      cases index : schema.indexOf? name with
      | none =>
          have absent := (schema.indexOf?_eq_none_iff name).1 index
          simp [absent, eq_comm]
      | some position =>
          have member : name ∈ schema.names := by
            by_contra absent
            rw [(schema.indexOf?_eq_none_iff name).2 absent] at index
            cases index
          simp [map_eq_error_iff, member]

theorem checkDistinct_eq_error_iff
    (names : List String)
    (rejection : Rejection) :
    checkDistinct names = .error rejection ↔
      ∃ name, FirstRepeat names name ∧ rejection = .duplicateAttribute name := by
  simp only [← firstRepeated?_nil_eq_some_iff, checkDistinct]
  cases firstRepeated? [] names <;> simp [eq_comm]

theorem bindWhere_eq_error_iff
    (condition : Option Condition)
    (schema : Schema)
    (rejection : Rejection) :
    bindWhere condition schema = .error rejection ↔
      ∃ own, condition = some own ∧ own.RefusedBy schema rejection := by
  cases condition with
  | none => simp [bindWhere]
  | some condition => simp [bindWhere, map_eq_error_iff, Condition.bind_eq_error_iff]

/-- A row of a table is selected if it meets the condition, in case there is one. -/
theorem selects_iff_met
    {condition : Option Condition}
    {schema : Schema}
    {bound : Option BoundCondition}
    (binds : bindWhere condition schema = .ok bound)
    {row : Row}
    (conforms : row.Conforms schema) :
    selects condition schema row = true ↔ ∀ own ∈ condition, own.Met schema row := by
  cases condition with
  | none => simp [selects]
  | some condition =>
      obtain ⟨own, ownBinds, _⟩ := map_eq_ok_iff.1 binds
      simp [selects, Condition.isMetBy_iff_met ownBinds conforms]

/-! ## Rejected queries -/

/-- Why a query is rejected: the first of the reasons that applies. -/
inductive SelectRejected (catalog : Catalog) (columns : Columns) (name : String)
    (condition : Option Condition) : Rejection → Prop
  | noTable (absent : catalog.Lacks name) :
      SelectRejected catalog columns name condition (.tableNotFound name)
  | unknownColumn {source : Table} {column : String}
      (found : catalog.find? name = some source)
      (reached : Reached (· ∈ source.schema.names) (listed source.schema columns) column)
      (unknown : column ∉ source.schema.names) :
      SelectRejected catalog columns name condition (.unknownAttribute column)
  | repeatedColumn {source : Table} {column : String}
      (found : catalog.find? name = some source)
      (known : ∀ other ∈ listed source.schema columns, other ∈ source.schema.names)
      (repeated : FirstRepeat (listed source.schema columns) column) :
      SelectRejected catalog columns name condition (.duplicateAttribute column)
  | refusedCondition {source : Table} {own : Condition} {rejection : Rejection}
      (found : catalog.find? name = some source)
      (known : ∀ other ∈ listed source.schema columns, other ∈ source.schema.names)
      (distinct : (listed source.schema columns).Nodup)
      (given : condition = some own)
      (refused : own.RefusedBy source.schema rejection) :
      SelectRejected catalog columns name condition rejection

/-- The table that a query returns: the listed columns with their types in the source, and the rows
that meet the condition, in order and cut down to these columns. -/
structure Answers (source : Table) (columns : Columns) (condition : Option Condition)
    (result : Table) : Prop where
  unnamed : result.name = none
  names : result.schema.names = listed source.schema columns
  attributes : ∀ attr ∈ result.schema.attributes, attr ∈ source.schema.attributes
  conforming : result.Conforming
  rows : ∃ met : Row → Bool,
    (∀ row ∈ source.rows, met row = true ↔ ∀ own ∈ condition, own.Met source.schema row) ∧
      result.rows = (source.rows.filter met).map fun row =>
        row.valuesOf source.schema (listed source.schema columns)

section
variable
  {catalog : Catalog}
  {columns : Columns}
  {name : String}
  {condition : Option Condition}

/-- Every reason for a rejection is the one that is given. -/
theorem SelectRejected.ofSelect_eq
    {rejection : Rejection}
    (rejected : SelectRejected catalog columns name condition rejection) :
    ofSelect catalog columns name condition = .error (.rejected rejection) := by
  cases rejected with
  | noTable absent =>
      have unresolved := (resolve_eq_error_iff ..).2 ⟨absent, rfl⟩
      exact bind_of_error (orReject_of_error unresolved)
  | unknownColumn found reached unknown =>
      have unlocated := (ordinals_eq_error_iff ..).2 ⟨_, reached, unknown, rfl⟩
      rw [ofSelect, bind_of_ok (resolve_of_find? found),
        bind_of_error (orReject_of_error unlocated)]
  | repeatedColumn found known repeated =>
      obtain ⟨positions, located⟩ := (exists_ordinals_iff ..).2 known
      have undistinct := (checkDistinct_eq_error_iff ..).2 ⟨_, repeated, rfl⟩
      rw [ofSelect, bind_of_ok (resolve_of_find? found),
        bind_of_ok (orReject_eq_ok_iff.2 located), bind_of_error (orReject_of_error undistinct)]
  | refusedCondition found known distinct given refused =>
      obtain ⟨positions, located⟩ := (exists_ordinals_iff ..).2 known
      have undoubled := (checkDistinct_eq_ok_iff _).2 distinct
      obtain ⟨schema, projected⟩ := Schema.exists_project known distinct
      have resulting : resultSchema _ _ = .ok schema := mapError_eq_ok_iff.2 projected
      have unbound := (bindWhere_eq_error_iff ..).2 ⟨_, given, refused⟩
      rw [ofSelect, bind_of_ok (resolve_of_find? found),
        bind_of_ok (orReject_eq_ok_iff.2 located), bind_of_ok (orReject_eq_ok_iff.2 undoubled),
        bind_of_ok resulting, bind_of_error (orReject_of_error unbound)]

/-- A query that no reason rejects is planned, and its plan is the answer. -/
theorem exists_answer_or_selectRejected
    (conforming : catalog.Conforming)
    (columns : Columns)
    (name : String)
    (condition : Option Condition) :
    (∃ source result, catalog.find? name = some source ∧ Answers source columns condition result ∧
        ofSelect catalog columns name condition = .ok (.select result)) ∨
      ∃ rejection, SelectRejected catalog columns name condition rejection := by
  cases found : catalog.find? name with
  | none => exact .inr ⟨_, .noTable ((catalog.find?_eq_none_iff name).1 found)⟩
  | some source =>
      rcases forall_or_exists_reached (· ∈ source.schema.names) (listed source.schema columns) with
        known | ⟨column, reached, unknown⟩
      swap
      · exact .inr ⟨_, .unknownColumn found reached unknown⟩
      cases repeated : firstRepeated? [] (listed source.schema columns) with
      | some column =>
          exact .inr ⟨_, .repeatedColumn found known ((firstRepeated?_nil_eq_some_iff ..).1 repeated)⟩
      | none =>
          have distinct := ((firstRepeated?_eq_none_iff ..).1 repeated).1
          cases binds : bindWhere condition source.schema with
          | error rejection =>
              obtain ⟨own, given, refused⟩ := (bindWhere_eq_error_iff ..).1 binds
              exact .inr ⟨_, .refusedCondition found known distinct given refused⟩
          | ok bound =>
              have sourceConforming := conforming source (Catalog.mem_of_find? found)
              obtain ⟨result, planned, projected, resultConforming, unnamed, rows⟩ :=
                exists_ofSelect found sourceConforming known distinct binds
              obtain ⟨attributes, names⟩ := Schema.project_eq_ok projected
              refine .inl ⟨source, result, rfl, ⟨unnamed, names, fun attr member => ?_,
                resultConforming, _, fun row member => ?_, rows⟩, planned⟩
              · obtain ⟨column, _, named⟩ := List.mem_filterMap.1 (attributes ▸ member)
                exact List.mem_of_find?_eq_some named
              · exact selects_iff_met binds (sourceConforming row member)

end

end Plan

/-! ## Queries -/

open Plan (Answers SelectRejected)

/-- A query on tables whose rows conform is rejected exactly for the first reason that applies, and
it fails in no other way. If there is no such reason, whether or not the table has rows, it returns
the listed columns of the rows that meet the condition. The tables and the storage stay as they
are. -/
theorem select_rejected_or_answered
    (gateway : Gateway σ)
    {store : Store σ}
    (conforming : store.catalog.Conforming)
    (columns : Columns)
    (name : String)
    (condition : Option Condition) :
    let run := Execution.ofStatement gateway store (.select columns name condition)
    (∀ fault, run.result = .error fault ↔
        ∃ rejection, fault = .rejected rejection ∧
          SelectRejected store.catalog columns name condition rejection) ∧
      ((∀ rejection, ¬ SelectRejected store.catalog columns name condition rejection) →
        ∃ source result, store.catalog.find? name = some source ∧
          run.result = .ok (.selected result) ∧ Answers source columns condition result) ∧
      run.store = store := by
  intro run
  have rejected : ∀ {rejection}, SelectRejected store.catalog columns name condition rejection →
      run = ⟨.error (.rejected rejection), store, []⟩ := by
    intro rejection own
    simp only [run, Execution.ofStatement, Plan.ofStatement, own.ofSelect_eq]
  rcases Plan.exists_answer_or_selectRejected conforming columns name condition with
    ⟨source, result, found, answers, planned⟩ | ⟨rejection, own⟩
  · have answered : run = ⟨.ok (.selected result), store, Execution.countRows (.selected result)⟩ := by
      simp only [run, Execution.ofStatement, Plan.ofStatement, planned, Execution.ofPlan]
    have unrejected : ∀ rejection,
        ¬ SelectRejected store.catalog columns name condition rejection := by
      intro rejection own
      rw [own.ofSelect_eq] at planned
      cases planned
    rw [answered]
    exact ⟨by simp [unrejected], fun _ => ⟨source, result, found, rfl, answers⟩, rfl⟩
  · rw [rejected own]
    refine ⟨fun fault => ⟨?_, ?_⟩, fun unrejected => absurd own (unrejected rejection), rfl⟩
    · rintro ⟨⟩
      exact ⟨rejection, rfl, own⟩
    · rintro ⟨other, rfl, otherRejected⟩
      exact congrArg Execution.result ((rejected own).symm.trans (rejected otherRejected))

/-- A table with an integer and a text column, whose name folds to `strasse`. -/
def streets : Table where
  name := some "Straße"
  schema := ⟨[⟨"nr", .integer⟩, ⟨"town", .text⟩], by decide⟩
  rows := [[.integer 1, .text "Ulm"], [.integer 20, .text ""], [.integer 3, .text "Ulm"]]

/-- Columns change places, and a literal with a sign and blanks selects two rows of three. A column
that is unknown is rejected even if another is listed twice before it. -/
theorem select_from_streets :
    let store : Store Journal := ⟨⟨[streets]⟩, { drafts := [] }⟩
    let condition : Condition := ⟨"nr", .atLeast, "' +02'"⟩
    let result : Table :=
      { name := none
        schema := ⟨[⟨"town", .text⟩, ⟨"nr", .integer⟩], by decide⟩
        rows := [[.text "", .integer 20], [.text "Ulm", .integer 3]] }
    (Execution.ofStatement Journal.gateway store
        (.select (.listed ["town", "nr"]) "STRASSE" (some condition))).result =
          .ok (.selected result) ∧
      Answers streets (.listed ["town", "nr"]) (some condition) result ∧
      SelectRejected store.catalog (.listed ["town", "town", "Nr"]) "STRASSE" none
        (.unknownAttribute "Nr") := by
  intro store condition result
  have conforming : store.catalog.Conforming := by
    unfold Catalog.Conforming Table.Conforming
    decide
  have foundStreets : store.catalog.find? "STRASSE" = some streets := by decide +kernel
  have selected : (Execution.ofStatement Journal.gateway store
      (.select (.listed ["town", "nr"]) "STRASSE" (some condition))).result =
        .ok (.selected result) := by
    decide +kernel
  have refused : (Execution.ofStatement Journal.gateway store
      (.select (.listed ["town", "town", "Nr"]) "STRASSE" none)).result =
        .error (.rejected (.unknownAttribute "Nr")) := by
    decide +kernel
  obtain ⟨errors, answered, _⟩ := select_rejected_or_answered Journal.gateway conforming
    (.listed ["town", "nr"]) "STRASSE" (some condition)
  obtain ⟨source, own, found, ownSelected, answers⟩ := answered fun rejection rejected => by
    have failed := (errors _).2 ⟨rejection, rfl, rejected⟩
    rw [selected] at failed
    cases failed
  obtain rfl := Option.some.inj (found.symm.trans foundStreets)
  obtain rfl := Outcome.selected.inj (Except.ok.inj (ownSelected.symm.trans selected))
  obtain ⟨rejection, same, rejected⟩ := ((select_rejected_or_answered Journal.gateway conforming
    (.listed ["town", "town", "Nr"]) "STRASSE" none).1 _).1 refused
  obtain rfl := Fault.rejected.inj same
  exact ⟨selected, answers, rejected⟩

end Engine
end FlatTables
