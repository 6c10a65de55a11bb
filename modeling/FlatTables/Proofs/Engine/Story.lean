import FlatTables.Engine.Database
import FlatTables.Proofs.Telemetry.Signals
import FlatTables.Storage.Folder
import FlatTables.Storage.Journal

/-!
# The story of a statement

The entries, the spans and the result of a statement belong together. The entries carry its number
and its text, and the last of them says how it has ended. One span covers reading it and, if it could
be read, one more covers carrying it out. The result, the last entry and the span agree on whether it
was rejected, and for what reason. The last entry is missing exactly if the statement has no reply.
-/

namespace FlatTables

open Query (Statement StatementType)
open Storage (Folder Gateway Journal Workspace WriteFault WriteReport)
open Telemetry

/-- The event says how a statement has ended. -/
def Telemetry.Event.EndsStatement (event : Event) : Prop :=
  event.name = "statement_executed" ∨ event.name = "statement_rejected"

/-- The writes of a gateway do not log how statements have ended. -/
structure Storage.Gateway.LeavesEnds {σ : Type} (gateway : Gateway σ) : Prop where
  append : ∀ table row storage, ∀ event ∈ (gateway.append table row storage).events,
    ¬ event.EndsStatement
  overwrite : ∀ table storage, ∀ event ∈ (gateway.overwrite table storage).events,
    ¬ event.EndsStatement

/-- A folder logs the rows that are appended and the tables that are overwritten. -/
theorem Storage.Folder.leavesEnds (folder : Folder) : folder.gateway.LeavesEnds := by
  constructor
  · intro table row workspace event member
    change event ∈ (folder.append table row workspace).events at member
    unfold Folder.append at member
    split at member
    · cases member
    · split at member
      · cases member
      · obtain rfl := List.mem_singleton.1 member
        simp [Event.EndsStatement, Event.name]
  · intro table workspace event member
    change event ∈ (folder.overwrite table workspace).events at member
    unfold Folder.overwrite at member
    split at member
    · cases member
    · split at member
      · cases member
      · obtain rfl := List.mem_singleton.1 member
        simp [Event.EndsStatement, Event.name]

/-- A journal logs nothing. -/
theorem Storage.Journal.leavesEnds : Journal.gateway.LeavesEnds := by
  have silent : ∀ (journal : Journal) fault write, (journal.note fault write).events = [] := by
    intro journal fault write
    cases fault <;> rfl
  constructor
  · intro table row journal event member
    rw [Journal.gateway, silent] at member
    cases member
  · intro table journal event member
    rw [Journal.gateway, silent] at member
    cases member

namespace Engine

variable {σ : Type}

/-! ## What a story is -/

/-- A text as entries show it: whole if it has at most 200 characters, and otherwise its first 200
characters and three dots. -/
structure ShownAs (text shown : String) : Prop where
  whole : text.length ≤ 200 → shown = text
  cut : 200 < text.length →
    ∃ head rest, head.length = 200 ∧ text = head ++ rest ∧ shown = head ++ "..."

namespace Turn

/-- All that is logged. -/
def logged {α : Type} (turn : Turn σ α) : List Entry :=
  entries Level.debug.weight turn.signals

/-- The entries and the spans of a turn are those of the statement with a number and a text. -/
structure BelongsTo (turn : Turn σ Reply) (number : Nat) (sql : String) : Prop where
  entries : ∃ shown, ShownAs (Text.trim sql) shown ∧ ∀ entry ∈ turn.logged,
    entry.fields.lookup "statement_id" = some (.number number) ∧
      entry.fields.lookup "sql" = some (.text shown)
  spans : ∃ reading others, enclosedSpans [] turn.signals = (reading, none) :: others ∧
    reading.name = "query.parse" ∧
    (∀ rejection, Statement.parse sql = .error rejection → others = []) ∧
    ∀ statement, Statement.parse sql = .ok statement →
      ∃ own, others = [(own, none)] ∧ own.name = "query." ++ statement.type.name

/-- The result is a rejection of some kind. -/
def IsRejected (turn : Turn σ Reply) (kind : String) : Prop :=
  ∃ reply rejection, turn.result = .ok reply ∧ reply.rejection? = some rejection ∧
    rejection.kind = kind

/-- A rejection of some kind is logged. -/
def LogsRejection (turn : Turn σ Reply) (kind : String) : Prop :=
  ∃ entry ∈ turn.logged, entry.fields.lookup "event" = some (.text "statement_rejected") ∧
    entry.fields.lookup "error" = some (.text kind)

/-- A span is marked as failed for a rejection of some kind. -/
def MarksRejection (turn : Turn σ Reply) (kind : String) : Prop :=
  ∃ span ∈ Telemetry.spans turn.signals, span.status = "ERROR" ∧
    span.attributes.lookup "query.error" = some (.text kind)

/-- The last entry of a turn says how the statement has ended, and no other does. The result, the
entries and the spans tell of the same rejections. -/
structure Concludes (turn : Turn σ Reply) : Prop where
  last : ∃ others last, turn.logged = others ++ [last] ∧ last.event.EndsStatement ∧
    ∀ entry ∈ others, ¬ entry.event.EndsStatement
  agrees : ∀ kind, (turn.IsRejected kind ↔ turn.LogsRejection kind) ∧
    (turn.LogsRejection kind ↔ turn.MarksRejection kind)

end Turn

/-- The text of a statement in its entries is the trimmed text, shortened. -/
theorem shownAs_loggedText (sql : String) : ShownAs (Text.trim sql) (loggedText sql) := by
  have length : (Text.trim sql).length = (Text.trimChars sql.toList).length := by
    rw [Text.trim, String.length_ofList]
  simp only [loggedText, maxLoggedCharacters, ← length]
  constructor
  · intro short
    simp only [Nat.not_lt.2 short, if_false]
    rfl
  · intro long
    simp only [long, if_true]
    refine ⟨String.ofList ((Text.trimChars sql.toList).take 200),
      String.ofList ((Text.trimChars sql.toList).drop 200), ?_, ?_, rfl⟩
    · rw [String.length_ofList, List.length_take]
      omega
    · rw [← String.ofList_append, List.take_append_drop]
      rfl

/-- If only the last entry says how a statement has ended, a rejection is logged exactly if it is in
this entry. -/
theorem Turn.logsRejection_iff
    {turn : Turn σ Reply}
    {others : List Entry}
    {last : Entry}
    (split : turn.logged = others ++ [last])
    (noEnd : ∀ entry ∈ others, ¬ entry.event.EndsStatement)
    (kind : String) :
    turn.LogsRejection kind ↔
      ∃ statement message, last.event = .statementRejected statement kind message := by
  simp only [LogsRejection, Entry.shows_rejection_iff, split, List.mem_append, List.mem_singleton]
  constructor
  · rintro ⟨entry, earlier | rfl, statement, message, same⟩
    · exact absurd (same ▸ .inr rfl) (noEnd entry earlier)
    · exact ⟨statement, message, same⟩
  · rintro ⟨statement, message, same⟩
    exact ⟨last, .inr rfl, statement, message, same⟩

/-! ## Carrying out a statement -/

namespace Execution

/-- A change arises in plain signals that do not say how the statement has ended, if its write and
its closing event do not. -/
theorem plain_ofWrite
    (operation : WriteOperation)
    (table : Table)
    (store : Store σ)
    {report : WriteReport σ}
    (ofReport : ∀ event ∈ report.events, ¬ event.EndsStatement)
    (outcome : String → Option String → Outcome)
    {event : String → Bool → Event}
    (ofEvent : ∀ name persisted, ¬ (event name persisted).EndsStatement) :
    ∀ signal ∈ (ofWrite operation table store report outcome event).signals,
      signal.Plain (¬ ·.EndsStatement) := by
  have written : ∀ signal ∈ report.events.map Signal.event, signal.Plain (¬ ·.EndsStatement) := by
    intro signal member
    obtain ⟨own, inEvents, rfl⟩ := List.mem_map.1 member
    exact .event (ofReport own inEvents)
  have counted : ∀ final, ∀ signal ∈ countRows final, signal.Plain (¬ ·.EndsStatement) := by
    intro final signal member
    unfold countRows at member
    split at member
    · cases member
    · obtain rfl := List.mem_singleton.1 member
      exact .observation _
  have finished : ∀ name persisted, ∀ signal ∈ [Signal.event (event name persisted)],
      signal.Plain (¬ ·.EndsStatement) := by
    intro name persisted signal member
    obtain rfl := List.mem_singleton.1 member
    exact .event (ofEvent name persisted)
  have failed : ∀ name message, ∀ signal ∈ failureSignals operation name message,
      signal.Plain (¬ ·.EndsStatement) := by
    intro name message signal member
    rcases List.mem_cons.1 member with rfl | last
    · apply Signal.Plain.event
      simp [Event.EndsStatement, Event.name]
    · obtain rfl := List.mem_singleton.1 last
      exact .observation _
  unfold ofWrite
  cases report.result with
  | ok state =>
      simp only [List.append_nil, List.forall_mem_append]
      exact ⟨⟨written, counted _⟩, finished _ _⟩
  | error fault =>
      cases reported : fault.reported? with
      | none => simpa only [reported] using written
      | some message =>
          simp only [reported, List.forall_mem_append]
          exact ⟨⟨⟨written, failed _ _⟩, counted _⟩, finished _ _⟩

/-- So does every statement. -/
theorem plain_ofStatement
    {gateway : Gateway σ}
    (leavesEnds : gateway.LeavesEnds)
    (store : Store σ)
    (statement : Statement) :
    ∀ signal ∈ (ofStatement gateway store statement).signals, signal.Plain (¬ ·.EndsStatement) := by
  unfold ofStatement
  cases Plan.ofStatement store.catalog statement with
  | error fault => simp
  | ok plan =>
      cases plan with
      | select result =>
          intro signal member
          simp only [ofPlan, countRows] at member
          split at member
          · cases member
          · obtain rfl := List.mem_singleton.1 member
            exact .observation _
      | insert table row =>
          apply plain_ofWrite .append table store (leavesEnds.append table row store.storage)
          simp [Event.EndsStatement, Event.name]
      | delete table count =>
          apply plain_ofWrite .overwrite table store (leavesEnds.overwrite table store.storage)
          simp [Event.EndsStatement, Event.name]

end Execution

/-! ## Ways to tell -/

/-- The event that says how a statement has ended. -/
def endOf (label : StatementLabel) : Reply → Event
  | .accepted outcome => .statementExecuted label outcome.affectedRows outcome.persisted
  | .rejected _ rejection => .statementRejected label rejection.kind rejection.message

theorem endsStatement_endOf (label : StatementLabel) (reply : Reply) :
    (endOf label reply).EndsStatement := by
  cases reply with
  | accepted outcome => exact .inl rfl
  | rejected type rejection => exact .inr rfl

/-- It is a rejection exactly if the reply is one. -/
theorem endOf_eq_rejected_iff
    (label : StatementLabel)
    (reply : Reply)
    (kind : String) :
    (∃ statement message, endOf label reply = .statementRejected statement kind message) ↔
      ∃ rejection, reply.rejection? = some rejection ∧ rejection.kind = kind := by
  cases reply with
  | accepted outcome => simp [endOf, Reply.rejection?]
  | rejected type rejection => simp [endOf, Reply.rejection?]

/-- The signals of a text and what it came to, in each of the ways in which it can end. -/
inductive Tells (sql : String) : Except Fault Reply → List Signal → Prop
  | unread {rejection : Rejection}
      (parsed : Statement.parse sql = .error rejection) :
      Tells sql (.ok (.rejected none rejection))
        (Signal.inSpan Span.parseName
          (Database.closing .unparsed (.rejected none rejection)) (.parse (some rejection)))
  | accepted {statement : Statement} {signals : List Signal} {outcome : Outcome}
      (parsed : Statement.parse sql = .ok statement)
      (plain : ∀ signal ∈ signals, signal.Plain (¬ ·.EndsStatement)) :
      Tells sql (.ok (.accepted outcome))
        (Signal.inSpan Span.parseName [] (.parse none) ++
          (Signal.inSpan (Span.statementName statement.type) signals
              (Database.statementSpan statement (.ok outcome)) ++
            Database.closing (.parsed statement.type) (.accepted outcome)))
  | rejected {statement : Statement} {signals : List Signal} {rejection : Rejection}
      (parsed : Statement.parse sql = .ok statement)
      (plain : ∀ signal ∈ signals, signal.Plain (¬ ·.EndsStatement)) :
      Tells sql (.ok (.rejected statement.type rejection))
        (Signal.inSpan Span.parseName [] (.parse none) ++
          (Signal.inSpan (Span.statementName statement.type) signals
              (Database.statementSpan statement (.error (.rejected rejection))) ++
            Database.closing (.parsed statement.type) (.rejected statement.type rejection)))
  | unanswered {statement : Statement} {signals : List Signal} {fault : Fault}
      (parsed : Statement.parse sql = .ok statement)
      (plain : ∀ signal ∈ signals, signal.Plain (¬ ·.EndsStatement)) :
      Tells sql (.error fault)
        (Signal.inSpan Span.parseName [] (.parse none) ++
          Signal.inSpan (Span.statementName statement.type) signals
            (Database.statementSpan statement (.error fault)))

/-- A text ends in one of these ways, and its signals get the number of the statement. -/
theorem tells_execute
    {gateway : Gateway σ}
    (leavesEnds : gateway.LeavesEnds)
    {database : Database σ}
    (started : database.isStarted = true)
    (sql : String) :
    ∃ signals, Tells sql (database.execute gateway sql).result signals ∧
      (database.execute gateway sql).signals =
        signals.map (Signal.within ⟨database.lastStatement + 1, loggedText sql⟩) := by
  obtain ⟨catalog, loaded⟩ := Option.isSome_iff_exists.1 started
  simp only [Database.execute, loaded, Database.answer]
  cases parsed : Statement.parse sql with
  | error rejection => exact ⟨_, .unread parsed, rfl⟩
  | ok statement =>
      have plain :=
        Execution.plain_ofStatement leavesEnds ⟨catalog, database.storage⟩ statement
      simp only [Database.carryOut]
      generalize Execution.ofStatement gateway ⟨catalog, database.storage⟩ statement = execution
        at plain
      obtain ⟨result, store, signals⟩ := execution
      cases result with
      | ok outcome => exact ⟨_, .accepted parsed plain, rfl⟩
      | error fault =>
          cases fault with
          | rejected rejection => exact ⟨_, .rejected parsed plain, rfl⟩
          | _ => exact ⟨_, .unanswered parsed plain, rfl⟩

/-- The end of a statement opens no span. -/
theorem plain_closing
    (label : StatementLabel)
    (reply : Reply) :
    ∀ signal ∈ Database.closing label reply, signal.Plain fun _ => True := by
  intro signal member
  rcases List.mem_cons.1 member with rfl | last
  · exact .observation _
  · obtain rfl := List.mem_singleton.1 last
    exact .event trivial

namespace Tells

variable
  {sql : String}
  {signals : List Signal}

/-- One span covers reading the text, and one more covers carrying out what could be read. -/
theorem enclosedSpans_eq
    {result : Except Fault Reply}
    (tells : Tells sql result signals) :
    ∃ reading others, enclosedSpans [] signals = (reading, none) :: others ∧
      reading.name = "query.parse" ∧
      (∀ rejection, Statement.parse sql = .error rejection → others = []) ∧
      ∀ statement, Statement.parse sql = .ok statement →
        ∃ own, others = [(own, none)] ∧ own.name = "query." ++ statement.type.name := by
  have nothing : ∀ signal ∈ ([] : List Signal), signal.Plain (fun _ => True) := by simp
  cases tells with
  | unread parsed =>
      refine ⟨_, _, enclosedSpans_inSpan (plain_closing _ _) _ _ _, rfl, fun _ _ => rfl, ?_⟩
      intro statement readable
      cases parsed.symm.trans readable
  | unanswered parsed plain =>
      refine ⟨_, _, enclosedSpans_inSpan_append nothing _ _ _ _, rfl, ?_, ?_⟩
      · intro rejection unreadable
        cases parsed.symm.trans unreadable
      · intro statement readable
        cases parsed.symm.trans readable
        exact ⟨_, enclosedSpans_inSpan plain _ _ _, rfl⟩
  | accepted parsed plain | rejected parsed plain =>
      refine ⟨_, _, enclosedSpans_inSpan_append nothing _ _ _ _, rfl, ?_, ?_⟩
      · intro rejection unreadable
        cases parsed.symm.trans unreadable
      · intro statement readable
        cases parsed.symm.trans readable
        rw [enclosedSpans_inSpan_append plain]
        exact ⟨_, rfl, rfl⟩

/-- A statement with a reply ends the entries, and nothing before does. -/
theorem exists_end
    {reply : Reply}
    (tells : Tells sql (.ok reply) signals) :
    ∃ others label,
      entries Level.debug.weight signals = others ++ [{ event := endOf label reply }] ∧
        ∀ entry ∈ others, ¬ entry.event.EndsStatement := by
  cases tells with
  | unread parsed => exact ⟨[], .unparsed, by simp; rfl, by simp⟩
  | @accepted statement _ _ parsed plain | @rejected statement _ _ parsed plain =>
      refine ⟨_, .parsed statement.type, by simp only [entries_append, entries_inSpan]; rfl, ?_⟩
      intro entry member
      exact (of_mem_entries_of_plain plain member).1

/-- A statement without a reply does not end the entries. -/
theorem not_endsStatement
    {fault : Fault}
    (tells : Tells sql (.error fault) signals) :
    ∀ entry ∈ entries Level.debug.weight signals, ¬ entry.event.EndsStatement := by
  cases tells with
  | @unanswered _ carried _ parsed plain =>
      intro entry member
      have inside : entry ∈ entries Level.debug.weight carried := by
        simpa using member
      exact (of_mem_entries_of_plain plain inside).1

/-- A span of a statement with a reply is marked as failed for a rejection exactly if the reply is
this rejection. -/
theorem marks_iff
    {reply : Reply}
    (tells : Tells sql (.ok reply) signals)
    (kind : String) :
    (∃ span ∈ spans signals, span.status = "ERROR" ∧
        span.attributes.lookup "query.error" = some (.text kind)) ↔
      ∃ rejection, reply.rejection? = some rejection ∧ rejection.kind = kind := by
  have nothing : ∀ signal ∈ ([] : List Signal), signal.Plain (fun _ => True) := by simp
  simp only [Span.marked_iff, ← map_fst_enclosedSpans signals []]
  cases tells with
  | unread parsed =>
      rw [enclosedSpans_inSpan (plain_closing _ _)]
      simp [Span.rejection?, Reply.rejection?]
  | accepted parsed plain | rejected parsed plain =>
      rw [enclosedSpans_inSpan_append nothing, enclosedSpans_inSpan_append plain]
      simp [Database.closing, Database.statementSpan, enclosedSpans, Span.rejection?,
        Reply.rejection?, Signal.event]

end Tells

/-! ## One statement -/

section
variable
  {gateway : Gateway σ}
  (leavesEnds : gateway.LeavesEnds)
  {database : Database σ}
  (started : database.isStarted = true)
  (sql : String)
include leavesEnds started

/-- The entries and the spans of a statement are its own. -/
theorem belongsTo_execute :
    (database.execute gateway sql).BelongsTo (database.lastStatement + 1) sql := by
  obtain ⟨signals, tells, signalsEq⟩ := tells_execute leavesEnds started sql
  constructor
  · refine ⟨loggedText sql, shownAs_loggedText sql, fun entry member => ?_⟩
    rw [Turn.logged, signalsEq, entries_within] at member
    obtain ⟨own, _, rfl⟩ := List.mem_map.1 member
    rw [Entry.lookup_statement_id, Entry.lookup_sql]
    exact ⟨rfl, rfl⟩
  · rw [signalsEq, enclosedSpans_within]
    exact tells.enclosedSpans_eq

/-- A statement with a reply is concluded. -/
theorem concludes_of_answered
    {reply : Reply}
    (answered : (database.execute gateway sql).result = .ok reply) :
    (database.execute gateway sql).Concludes := by
  obtain ⟨signals, tells, signalsEq⟩ := tells_execute leavesEnds started sql
  rw [answered] at tells
  obtain ⟨others, label, split, noEnd⟩ := tells.exists_end
  have logged : (database.execute gateway sql).logged = _ :=
    (congrArg (entries Level.debug.weight) signalsEq).trans (entries_within _ _ _)
  rw [split, List.map_append] at logged
  have noEndBefore : ∀ entry ∈ others.map fun entry =>
      { entry with context := some ⟨database.lastStatement + 1, loggedText sql⟩ },
      ¬ entry.event.EndsStatement := by
    intro entry member
    obtain ⟨own, inOthers, rfl⟩ := List.mem_map.1 member
    exact noEnd own inOthers
  refine ⟨⟨_, _, logged, endsStatement_endOf label reply, noEndBefore⟩, fun kind => ?_⟩
  have rejected : (database.execute gateway sql).IsRejected kind ↔
      ∃ rejection, reply.rejection? = some rejection ∧ rejection.kind = kind := by
    simp [Turn.IsRejected, answered]
  have logs : (database.execute gateway sql).LogsRejection kind ↔
      ∃ rejection, reply.rejection? = some rejection ∧ rejection.kind = kind :=
    (Turn.logsRejection_iff logged noEndBefore kind).trans (endOf_eq_rejected_iff label reply kind)
  have marks : (database.execute gateway sql).MarksRejection kind ↔
      ∃ rejection, reply.rejection? = some rejection ∧ rejection.kind = kind := by
    rw [Turn.MarksRejection, signalsEq, ← map_fst_enclosedSpans _ [], enclosedSpans_within,
      map_fst_enclosedSpans]
    exact tells.marks_iff kind
  exact ⟨rejected.trans logs.symm, logs.trans marks.symm⟩

/-- A statement without a reply is not. -/
theorem not_concludes_of_unanswered
    {fault : Fault}
    (unanswered : (database.execute gateway sql).result = .error fault) :
    ¬ (database.execute gateway sql).Concludes := by
  obtain ⟨signals, tells, signalsEq⟩ := tells_execute leavesEnds started sql
  rw [unanswered] at tells
  rintro ⟨⟨others, last, split, ends, _⟩, _⟩
  have member : last ∈ (database.execute gateway sql).logged := by
    rw [split]
    exact List.mem_append_right others (List.mem_singleton_self last)
  rw [Turn.logged, signalsEq, entries_within] at member
  obtain ⟨own, inSignals, rfl⟩ := List.mem_map.1 member
  exact tells.not_endsStatement own inSignals ends

theorem concludes_execute_iff :
    (database.execute gateway sql).Concludes ↔
      ∃ reply, (database.execute gateway sql).result = .ok reply := by
  constructor
  · intro concludes
    cases result : (database.execute gateway sql).result with
    | ok reply => exact ⟨reply, rfl⟩
    | error fault =>
        exact absurd concludes (not_concludes_of_unanswered leavesEnds started sql result)
  · rintro ⟨reply, answered⟩
    exact concludes_of_answered leavesEnds started sql answered

end

end Engine
end FlatTables
