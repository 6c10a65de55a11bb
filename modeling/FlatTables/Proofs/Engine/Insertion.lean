import FlatTables.Proofs.Engine.Selection
import FlatTables.Proofs.Engine.Step

/-!
# What insertions store

An insertion is rejected for the first of six reasons that applies: there is no such table, the two
lists differ in length, the columns are not those of the table in order, a literal is no value of
its column's type, a text cannot be kept in a line, or the line would be blank. Then no table has
changed and the gateway was not asked for anything. Every other insertion adds the row its literals
are read as at the end of the table and asks the gateway once, to append this row.
-/

namespace FlatTables
namespace Engine

open Literal (Reads coerce)
open Storage (Gateway Journal Write)

variable {σ : Type}

namespace Plan

/-! ## Rejected insertions -/

/-- Why an insertion is rejected: the first of the reasons that applies. Literals are given as they
were written. -/
inductive InsertRejected (catalog : Catalog) (name : String) (attributes literals : List String) :
    Rejection → Prop
  | noTable (absent : catalog.Lacks name) :
      InsertRejected catalog name attributes literals (.tableNotFound name)
  | lengths {table : Table}
      (found : catalog.find? name = some table)
      (differ : attributes.length ≠ literals.length) :
      InsertRejected catalog name attributes literals
        (.listLengths attributes.length literals.length)
  | columns {table : Table}
      (found : catalog.find? name = some table)
      (same : attributes.length = literals.length)
      (differ : attributes ≠ table.schema.names) :
      InsertRejected catalog name attributes literals
        (.notWholeSchema attributes (table.name.getD "") table.schema)
  | unread {table : Table} {attr : Attribute} {literal : String}
      (fits : Fits catalog name attributes literals table)
      (reached : Reached (fun pair => ∃ value, coerce pair.1.type pair.2 = .ok value)
        (table.schema.attributes.zip literals) (attr, literal))
      (unread : ∀ value, coerce attr.type literal ≠ .ok value) :
      InsertRejected catalog name attributes literals (.invalidLiteral literal attr.type none)
  | separated {table : Table} {row : Row} {value : Value} {literal : String}
      (fits : Fits catalog name attributes literals table)
      (reads : Reads table.schema.attributes literals row)
      (reached : Reached (fun pair => ¬ pair.1.Separated) (row.zip literals) (value, literal))
      (separated : value.Separated) :
      InsertRejected catalog name attributes literals
        (.invalidLiteral literal .text (some .separator))
  | blank {table : Table} {s literal : String}
      (fits : Fits catalog name attributes literals table)
      (sole : literals = [literal])
      (reads : Reads table.schema.attributes literals [.text s])
      (unseparated : ¬ (Value.text s).Separated)
      (blank : Text.isBlankText s = true) :
      InsertRejected catalog name attributes literals
        (.invalidLiteral literal .text (some .blankRow))

section
variable
  {catalog : Catalog}
  {name : String}
  {attributes literals : List String}

/-- A row that is read from the literals of an insertion has as many values. -/
theorem Fits.length_row
    {table : Table}
    (fits : Fits catalog name attributes literals table)
    {row : Row}
    (reads : Reads table.schema.attributes literals row) :
    row.length = literals.length := by
  rw [← reads.length_eq, List.length_zip, fits.length_eq, Nat.min_self]

/-- Every reason for a rejection is the one that is given. -/
theorem InsertRejected.ofInsert_eq
    {rejection : Rejection}
    (rejected : InsertRejected catalog name attributes literals rejection) :
    ofInsert catalog name attributes literals = .error (.rejected rejection) := by
  have checked : ∀ {table}, Fits catalog name attributes literals table →
      orReject (checkLists table attributes literals) = .ok () := fun fits =>
    orReject_eq_ok_iff.2 ((checkLists_eq_ok_iff ..).2 ⟨fits.lengths, fits.whole⟩)
  have read : ∀ {table : Table} {row}, Reads table.schema.attributes literals row →
      orReject (Literal.coerceAll table.schema.attributes literals) = .ok row := fun reads =>
    orReject_eq_ok_iff.2 ((Literal.coerceAll_eq_ok_iff ..).2 reads)
  cases rejected with
  | noTable absent =>
      have unresolved := (resolve_eq_error_iff ..).2 ⟨absent, rfl⟩
      rw [ofInsert, bind_of_error (orReject_of_error unresolved)]
  | lengths found differ =>
      rw [ofInsert, bind_of_ok (resolve_of_find? found), checkLists, if_pos differ]
      rfl
  | columns found same differ =>
      rw [ofInsert, bind_of_ok (resolve_of_find? found), checkLists, if_neg (not_not.2 same),
        if_pos differ]
      rfl
  | unread fits reached unread =>
      have failed := (Literal.coerceAll_eq_error_iff ..).2 ⟨_, reached, unread, rfl⟩
      rw [ofInsert, bind_of_ok (resolve_of_find? fits.found), bind_of_ok (checked fits),
        bind_of_error (orReject_of_error failed)]
  | separated fits reads reached separated =>
      have first := (Literal.firstSeparated?_eq_some_iff ..).2 ⟨_, reached, separated, rfl⟩
      have failed := (Literal.ensureStorable_eq_error_iff (fits.length_row reads) _).2
        (.inl ⟨_, first, rfl⟩)
      rw [ofInsert, bind_of_ok (resolve_of_find? fits.found), bind_of_ok (checked fits),
        bind_of_ok (read reads), checkStorable, failed]
      rfl
  | blank fits sole reads unseparated blank =>
      rw [← Literal.holdsSeparator_iff, Bool.not_eq_true] at unseparated
      have failed := (Literal.ensureStorable_eq_error_iff (fits.length_row reads) _).2
        (.inr ⟨_, _, rfl, sole, unseparated, blank, rfl⟩)
      rw [ofInsert, bind_of_ok (resolve_of_find? fits.found), bind_of_ok (checked fits),
        bind_of_ok (read reads), checkStorable, failed]
      rfl

/-- An insertion that no reason rejects is planned, and its plan is to add the row. -/
theorem exists_row_or_insertRejected
    (catalog : Catalog)
    (name : String)
    (attributes literals : List String) :
    (∃ (table : Table) (row : Row), catalog.find? name = some table ∧
        Reads table.schema.attributes literals row ∧
        ofInsert catalog name attributes literals =
          .ok (.insert { table with rows := table.rows ++ [row] } row)) ∨
      ∃ rejection, InsertRejected catalog name attributes literals rejection := by
  cases found : catalog.find? name with
  | none => exact .inr ⟨_, .noTable ((catalog.find?_eq_none_iff name).1 found)⟩
  | some table =>
      by_cases same : attributes.length = literals.length
      swap
      · exact .inr ⟨_, .lengths found same⟩
      by_cases whole : attributes = table.schema.names
      swap
      · exact .inr ⟨_, .columns found same whole⟩
      have fits : Fits catalog name attributes literals table := ⟨found, same, whole⟩
      cases read : Literal.coerceAll table.schema.attributes literals with
      | error rejection =>
          obtain ⟨⟨attr, literal⟩, reached, unread, _⟩ := (Literal.coerceAll_eq_error_iff ..).1 read
          exact .inr ⟨_, .unread fits reached unread⟩
      | ok row =>
          have reads := (Literal.coerceAll_eq_ok_iff ..).1 read
          cases storable : Literal.ensureStorable row literals with
          | ok passed => exact .inl ⟨table, row, rfl, reads, fits.ofInsert_eq read storable⟩
          | error fault =>
              rcases (Literal.ensureStorable_eq_error_iff (fits.length_row reads) fault).1 storable
                with ⟨literal, first, _⟩ | ⟨s, literal, rfl, sole, unseparated, blank, _⟩
              · obtain ⟨⟨value, own⟩, reached, separated, _⟩ :=
                  (Literal.firstSeparated?_eq_some_iff ..).1 first
                exact .inr ⟨_, .separated fits reads reached separated⟩
              · rw [← Bool.not_eq_true, Literal.holdsSeparator_iff] at unseparated
                exact .inr ⟨_, .blank fits sole reads unseparated blank⟩

end

end Plan

/-! ## Insertions -/

open Plan (InsertRejected)

/-- A planned insertion puts the new table in place of the old one and then writes. -/
theorem ofStatement_of_insert
    (gateway : Gateway σ)
    {catalog : Catalog}
    {name : String}
    {attributes literals : List String}
    {table : Table}
    {row : Row}
    (planned : Plan.ofInsert catalog name attributes literals = .ok (.insert table row))
    (storage : σ) :
    let run := Execution.ofStatement gateway ⟨catalog, storage⟩ (.insert name attributes literals)
    run.store = ⟨catalog.update (table.name.getD "") table,
        (gateway.append table row storage).state storage⟩ ∧
      Database.replyTo .insert run.result =
        conclude (.inserted (table.name.getD "")) (gateway.append table row storage) := by
  simp only [Execution.ofStatement, Plan.ofStatement, planned, Execution.ofPlan]
  exact ofWrite_eq ..

/-- An insertion is rejected exactly for the first reason that applies, and then no table has
changed, nothing was written and nothing was logged. If there is no such reason, its literals are
read as a row that is added at the end of the table, and the gateway is asked once, to append just
this row: a journal notes this one write. -/
theorem insert_rejected_or_stored
    (gateway : Gateway σ)
    (store : Store σ)
    (name : String)
    (attributes literals : List String) :
    let run := Execution.ofStatement gateway store (.insert name attributes literals)
    (∀ rejection, run.result = .error (.rejected rejection) ↔
        InsertRejected store.catalog name attributes literals rejection) ∧
      (∀ rejection, InsertRejected store.catalog name attributes literals rejection →
        run.store = store ∧ run.signals = []) ∧
      ((∀ rejection, ¬ InsertRejected store.catalog name attributes literals rejection) →
        ∃ (table : Table) (row : Row), store.catalog.find? name = some table ∧
          Reads table.schema.attributes literals row ∧
          (let after : Table := { table with rows := table.rows ++ [row] }
          Changes store name after .insert (.inserted (table.name.getD ""))
            (gateway.append after row store.storage) run) ∧
          ∀ journal : Journal, journal.appendFault = none →
            (Execution.ofStatement Journal.gateway ⟨store.catalog, journal⟩
              (.insert name attributes literals)).store.storage.writes =
                journal.writes ++ [.append table.name row]) := by
  intro run
  have rejected : ∀ {rejection},
      InsertRejected store.catalog name attributes literals rejection →
        run = ⟨.error (.rejected rejection), store, []⟩ := by
    intro rejection own
    simp only [run, Execution.ofStatement, Plan.ofStatement, own.ofInsert_eq]
  rcases Plan.exists_row_or_insertRejected store.catalog name attributes literals with
    ⟨table, row, found, reads, planned⟩ | ⟨rejection, own⟩
  · have unrejected : ∀ rejection,
        ¬ InsertRejected store.catalog name attributes literals rejection := by
      intro rejection own
      rw [own.ofInsert_eq] at planned
      cases planned
    obtain ⟨stored, answer⟩ := ofStatement_of_insert gateway planned store.storage
    have accepted : ∀ rejection, run.result ≠ .error (.rejected rejection) := by
      intro rejection refused
      rw [refused] at answer
      obtain ⟨failure, impossible, _⟩ := conclude_eq_ok answer.symm
      cases impossible
    have sameName : ({ table with rows := table.rows ++ [row] } : Table).name = table.name := rfl
    have changes : Changes store name { table with rows := table.rows ++ [row] } .insert
        (.inserted (table.name.getD ""))
        (gateway.append { table with rows := table.rows ++ [row] } row store.storage) run :=
      .of_update found sameName stored answer
    refine ⟨by simp [accepted, unrejected], by simp [unrejected], fun _ => ⟨table, row, found,
      reads, changes, fun journal noFault => ?_⟩⟩
    rw [(ofStatement_of_insert Journal.gateway planned journal).1]
    simp [Journal.gateway, Journal.note, noFault, Storage.WriteReport.state]
  · rw [rejected own]
    refine ⟨fun other => ⟨?_, fun otherOwn => ?_⟩, fun _ _ => ⟨rfl, rfl⟩,
      fun unrejected => absurd own (unrejected rejection)⟩
    · rintro ⟨⟩
      exact own
    · exact congrArg Execution.result ((rejected own).symm.trans (rejected otherOwn))

/-- A number in quotes is stored as a number, and the row goes to the journal once. The literal that
is no number is rejected before a comma in a later one is noticed. -/
theorem insert_into_streets :
    let store : Store Journal := ⟨⟨[streets]⟩, { drafts := [] }⟩
    let row : Row := [.integer (-7), .text "o'clock"]
    let run := Execution.ofStatement Journal.gateway store
      (.insert "STRASSE" ["nr", "town"] ["' -007 '", "'o'clock'"])
    run.store.catalog.find? "strasse" = some { streets with rows := streets.rows ++ [row] } ∧
      run.store.storage.writes = [.append (some "Straße") row] ∧
      InsertRejected store.catalog "STRASSE" ["nr", "town"] ["'x'", "'u,v'"]
        (.invalidLiteral "'x'" .integer none) := by
  intro store row run
  have accepted : run.result = .ok (.inserted "Straße" none) := by decide +kernel
  have refused : (Execution.ofStatement Journal.gateway store
      (.insert "STRASSE" ["nr", "town"] ["'x'", "'u,v'"])).result =
        .error (.rejected (.invalidLiteral "'x'" .integer none)) := by
    decide +kernel
  obtain ⟨errors, _, stored⟩ := insert_rejected_or_stored Journal.gateway store "STRASSE"
    ["nr", "town"] ["' -007 '", "'o'clock'"]
  obtain ⟨table, own, found, reads, changes, noted⟩ := stored fun rejection rejected => by
    have failed := (errors rejection).2 rejected
    rw [accepted] at failed
    cases failed
  have foundStreets : store.catalog.find? "STRASSE" = some streets := by decide +kernel
  have sameFold : Text.fold "strasse" = Text.fold "STRASSE" := by decide +kernel
  obtain rfl := Option.some.inj (found.symm.trans foundStreets)
  have read : Literal.coerceAll streets.schema.attributes ["' -007 '", "'o'clock'"] = .ok row := by
    decide +kernel
  obtain rfl := Except.ok.inj (((Literal.coerceAll_eq_ok_iff ..).2 reads).symm.trans read)
  have tables := changes.tables "strasse"
  rw [if_pos sameFold] at tables
  exact ⟨tables, noted store.storage rfl, ((insert_rejected_or_stored Journal.gateway store
    "STRASSE" ["nr", "town"] ["'x'", "'u,v'"]).1 _).1 refused⟩

end Engine
end FlatTables
