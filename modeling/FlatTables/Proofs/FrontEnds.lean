import FlatTables.Proofs.Query.Trimming
import FlatTables.Proofs.Samples
import FlatTables.Proofs.Text.Encoding
import FlatTables.Service
import FlatTables.Shell

/-!
# Front ends

The service and a single statement of the shell reach the database as they are, typed lines and
scripts without the blanks around them. Since these blanks do not matter, all of them change the
database in the same way and come to replies that differ in the wording of rejections at most.
-/

namespace FlatTables

open Engine (Database Reply Turn)
open Storage (Gateway Journal Workspace)

variable {σ : Type}

/-! ## Replies up to wording -/

namespace Engine

/-- Two replies tell the same, apart from the wording of a rejection. -/
structure Reply.SameUpToWording (left right : Reply) : Prop where
  success : left.success = right.success
  type : left.type? = right.type?
  columns : left.columns = right.columns
  rows : left.rows = right.rows
  affectedRows : left.affectedRows = right.affectedRows
  persisted : left.persisted = right.persisted
  kind : left.rejection?.map Rejection.kind = right.rejection?.map Rejection.kind

theorem Reply.SameUpToWording.refl (reply : Reply) : reply.SameUpToWording reply :=
  ⟨rfl, rfl, rfl, rfl, rfl, rfl, rfl⟩

/-- Two calls leave the same database, and come to the same fault or to replies that tell the
same. -/
structure Turn.SameUpToWording (left right : Turn σ Reply) : Prop where
  database : left.database = right.database
  result :
    (∃ fault, left.result = .error fault ∧ right.result = .error fault) ∨
      ∃ reply other : Reply, left.result = .ok reply ∧ right.result = .ok other ∧
        reply.SameUpToWording other

/-- Blanks around a statement make no difference for the database. -/
theorem Database.execute_trim
    (gateway : Gateway σ)
    (database : Database σ)
    (sql : String) :
    (database.execute gateway sql).SameUpToWording (database.execute gateway (Text.trim sql)) := by
  have refl : ∀ result : Except Fault Reply,
      (∃ fault, result = .error fault ∧ result = .error fault) ∨
        ∃ reply other : Reply, result = .ok reply ∧ result = .ok other ∧
          reply.SameUpToWording other := by
    intro result
    cases result with
    | error fault => exact .inl ⟨fault, rfl, rfl⟩
    | ok reply => exact .inr ⟨reply, reply, rfl, rfl, .refl reply⟩
  unfold Database.execute
  cases database.catalog with
  | none => exact ⟨rfl, refl _⟩
  | some catalog =>
      have alike := Query.parse_trim sql
      simp only [Database.answer]
      generalize Query.Statement.parse (Text.trim sql) = trimmed at alike
      generalize Query.Statement.parse sql = whole at alike
      cases alike with
      | ok same =>
          cases same
          exact ⟨rfl, refl _⟩
      | error sameKind =>
          exact ⟨rfl, .inr ⟨_, _, rfl, rfl, rfl, rfl, rfl, rfl, rfl, rfl,
            congrArg some sameKind.symm⟩⟩

end Engine

/-! ## What front ends make of a reply -/

/-- The shell after a call of its database, whose reply it has shown. -/
def Shell.conclude (shell : Shell σ) (turn : Turn σ Reply) : Shell.Step σ Bool :=
  let after : Shell σ := { shell with database := turn.database }
  match turn.result with
  | .error fault => ⟨.error fault, after⟩
  | .ok reply =>
      match Shell.show? shell.console reply with
      | .error fault => ⟨.error fault, after⟩
      | .ok console => ⟨.ok (reply.success && reply.persisted), { after with console }⟩

/-- The answer to a request that has called the database. -/
def Service.conclude (turn : Turn σ Reply) : Service.Step σ :=
  ⟨turn.result.map fun reply => ⟨200, Service.ofReply reply⟩, turn.database⟩

namespace Shell

/-- Showing a reply does not change the database. -/
theorem conclude_database
    (shell : Shell σ)
    (turn : Turn σ Reply) :
    (shell.conclude turn).shell.database = turn.database := by
  unfold conclude
  cases turn.result with
  | error fault => rfl
  | ok reply =>
      dsimp only
      cases show? shell.console reply <;> rfl

/-- A script of one statement runs the statement. -/
theorem runStatements_singleton
    (gateway : Gateway σ)
    (shell : Shell σ)
    (sql : String) :
    shell.runStatements gateway [sql] = shell.runStatement gateway sql := by
  unfold runStatements
  generalize shell.runStatement gateway sql = step
  obtain ⟨result, after⟩ := step
  cases result with
  | error fault => rfl
  | ok good => simp [runStatements, Except.map]

/-- What may stand behind the only line of a script. -/
def lineEndings : List String :=
  ["", "\n", "\r", "\r\n"]

/-- A script that holds one line with a statement runs it without the blanks around it. -/
theorem runScript_line
    (gateway : Gateway σ)
    (shell : Shell σ)
    {sql : String}
    (oneLine : ∀ c ∈ sql.toList, Text.isNewline c = false)
    (nonblank : Text.trimChars sql.toList ≠ [])
    (noComment : ¬ ['-', '-'] <+: Text.trimChars sql.toList)
    {ending : String}
    (isEnding : ending ∈ lineEndings) :
    shell.runScript gateway (sql ++ ending).toUTF8 =
      shell.runStatement gateway (Text.trim sql) := by
  have nonempty : sql.toList ≠ [] := by
    rintro empty
    exact nonblank (by rw [empty]; rfl)
  have line : Text.lines (sql ++ ending) = [sql] := by
    have single : ∀ own ∈ lineEndings, own ≠ "" →
        Text.splitLines Text.isNewline own.toList = [[]] := by
      simp [lineEndings, Text.splitLines, Text.isNewline, Text.afterBreak]
    rw [Text.lines, String.toList_append]
    by_cases bare : ending = ""
    · rw [bare, String.toList_empty, List.append_nil, Text.splitLines_of_no_break nonempty oneLine,
        List.map_singleton, String.ofList_toList]
    · rw [Text.splitLines_of_break oneLine (single ending isEnding bare), List.map_singleton,
        String.ofList_toList]
  have statement : scriptStatement? sql = some (Text.trim sql) := by
    unfold scriptStatement?
    rw [if_neg]
    · rfl
    · rintro (empty | comment)
      · exact nonblank empty
      · exact noComment (List.isPrefixOf_iff_prefix.1 comment)
  unfold runScript
  simp only [Text.decodeStream_toUTF8, Text.Stream.lines, line, List.filterMap_cons, statement,
    List.filterMap_nil, runStatements_singleton]
  cases (shell.runStatement gateway (Text.trim sql)).result <;> rfl

/-- A typed line with a statement runs it without the blanks around it, and input goes on. -/
theorem handleLine_statement
    (gateway : Gateway σ)
    (shell : Shell σ)
    {sql : String}
    (nonblank : Text.trimChars sql.toList ≠ [])
    (stays : String.ofList ((Text.trimChars sql.toList).map Char.toLower) ∉ leaveWords) :
    shell.handleLine gateway sql =
      ⟨(shell.runStatement gateway (Text.trim sql)).result.map fun _ => true,
        (shell.runStatement gateway (Text.trim sql)).shell⟩ := by
  have request : Request.ofLine sql = .statement (Text.trim sql) := by
    unfold Request.ofLine
    rw [if_neg nonblank, if_neg stays]
    rfl
  rw [handleLine, request]

end Shell

/-! ## All front ends -/

/-- All front ends leave the same database behind when they are given a statement, and each tells of
one of two replies that are the same up to wording. -/
structure FrontEndsAgree (gateway : Gateway σ) (shell : Shell σ) (sql : String) : Prop where
  replies :
    (shell.database.execute gateway sql).SameUpToWording
      (shell.database.execute gateway (Text.trim sql))
  statement :
    shell.runStatement gateway sql = shell.conclude (shell.database.execute gateway sql)
  request : ∀ body, Service.statementOf body = .ok sql →
    Service.execute gateway shell.database body =
      Service.conclude (shell.database.execute gateway sql)
  line :
    shell.handleLine gateway sql =
      ⟨(shell.conclude (shell.database.execute gateway (Text.trim sql))).result.map fun _ => true,
        (shell.conclude (shell.database.execute gateway (Text.trim sql))).shell⟩
  script : ∀ ending ∈ Shell.lineEndings,
    shell.runScript gateway (sql ++ ending).toUTF8 =
      shell.conclude (shell.database.execute gateway (Text.trim sql))
  databases :
    (shell.runStatement gateway sql).shell.database =
        (shell.database.execute gateway sql).database ∧
      (∀ body, Service.statementOf body = .ok sql →
        (Service.execute gateway shell.database body).database =
          (shell.database.execute gateway sql).database) ∧
      (shell.handleLine gateway sql).shell.database =
        (shell.database.execute gateway sql).database ∧
      ∀ ending ∈ Shell.lineEndings,
        (shell.runScript gateway (sql ++ ending).toUTF8).shell.database =
          (shell.database.execute gateway sql).database

/-- A statement on one line that is neither blank, nor a comment, nor a word that asks to leave is
run in the same way by all front ends of a started database, whether it is accepted or not. A script
may be given by its path, too. -/
theorem front_ends_agree
    {sql : String}
    (oneLine : ∀ c ∈ sql.toList, Text.isNewline c = false)
    (nonblank : Text.trimChars sql.toList ≠ [])
    (stays : String.ofList ((Text.trimChars sql.toList).map Char.toLower) ∉ Shell.leaveWords)
    (noComment : ¬ ['-', '-'] <+: Text.trimChars sql.toList) :
    (∀ {σ : Type} (gateway : Gateway σ) (shell : Shell σ),
      shell.database.isStarted = true → FrontEndsAgree gateway shell sql) ∧
    ∀ (gateway : Gateway Workspace) (shell : Shell Workspace) (path : Storage.Path),
      ∀ ending ∈ Shell.lineEndings,
        shell.database.storage.read path = .ok (sql ++ ending).toUTF8 →
        shell.runFile gateway path = shell.runScript gateway (sql ++ ending).toUTF8 := by
  constructor
  · intro σ gateway shell started
    have replies := Engine.Database.execute_trim gateway shell.database sql
    have request : ∀ body, Service.statementOf body = .ok sql →
        Service.execute gateway shell.database body =
          Service.conclude (shell.database.execute gateway sql) := by
      intro body isStatement
      unfold Service.execute
      rw [isStatement]
      exact if_pos started
    have line := Shell.handleLine_statement gateway shell nonblank stays
    have script : ∀ ending ∈ Shell.lineEndings,
        shell.runScript gateway (sql ++ ending).toUTF8 =
          shell.conclude (shell.database.execute gateway (Text.trim sql)) :=
      fun ending isEnding =>
        Shell.runScript_line gateway shell oneLine nonblank noComment isEnding
    refine ⟨replies, rfl, request, line, script, ?_, ?_, ?_, ?_⟩
    · exact Shell.conclude_database shell _
    · intro body isStatement
      rw [request body isStatement]
      rfl
    · rw [line, replies.database]
      exact Shell.conclude_database shell _
    · intro ending isEnding
      rw [script ending isEnding, replies.database]
      exact Shell.conclude_database shell _
  · intro gateway shell path ending isEnding holds
    unfold Shell.runFile
    rw [holds]

/-- A deletion between blanks, with a comment behind it. -/
def paddedDeletion : String :=
  "\t DELETE FROM T WHERE a = 1 -- first \u00a0 "

/-- Every front end runs the deletion, which empties the table with one write. -/
theorem front_ends_agree_deletion :
    FrontEndsAgree Journal.gateway
      { database := (Engine.sampleJournal.start Journal.gateway).database } paddedDeletion ∧
    ((Engine.sampleJournal.start Journal.gateway).database.execute Journal.gateway
      paddedDeletion).result = .ok (.accepted (.deleted "T" 1 none)) ∧
    (Shell.runScript Journal.gateway
      { database := (Engine.sampleJournal.start Journal.gateway).database }
      (paddedDeletion ++ "\r\n").toUTF8).shell.database.storage.writes =
        [.overwrite (some "T") []] := by
  have oneLine : ∀ c ∈ paddedDeletion.toList, Text.isNewline c = false :=
    fun c member => Bool.eq_false_iff.2 (List.any_eq_false.1
      (by decide +kernel : paddedDeletion.toList.any Text.isNewline = false) c member)
  have agree : FrontEndsAgree Journal.gateway
      { database := (Engine.sampleJournal.start Journal.gateway).database } paddedDeletion :=
    (front_ends_agree oneLine (by decide +kernel) (by decide +kernel)
      (by decide +kernel)).1 _ _ (by decide +kernel)
  refine ⟨agree, by decide +kernel, ?_⟩
  rw [agree.databases.2.2.2 "\r\n" (by decide)]
  decide +kernel

end FlatTables
