import FlatTables.Proofs.Engine.Attempt
import FlatTables.Proofs.Engine.Frame
import FlatTables.Proofs.Samples

/-!
# Statements on different tables

Two runs over one folder are compared by what they have of a single table: its rows in memory and
the entry of its data file. A statement that names the table has the same result in both runs and
leaves both with the same; any other statement may be in one run only. So the results of the
statements that name a table do not depend on the statements between them, and a run can be put
together from the statements on single tables in any way.
-/

namespace FlatTables
namespace Engine

open Query (Statement)
open Storage
open Storage.Workspace (Alike Receives)

/-- A database is started with one store only. -/
theorem Database.Holds.eq
    {σ : Type}
    {database : Database σ}
    {left right : Store σ}
    (holdsLeft : database.Holds left)
    (holdsRight : database.Holds right) :
    left = right := by
  have catalogs := Option.some.inj (holdsLeft.catalog_eq.symm.trans holdsRight.catalog_eq)
  have storages := holdsLeft.storage_eq.symm.trans holdsRight.storage_eq
  cases left
  cases right
  simp_all

/-! ## One table in two runs -/

/-- Two stores that have been reached from one agree on a table: on its rows, and on the entry of
its data file. -/
structure AgreeOn (folder : Folder) (origin : Store Workspace) (target : Option String)
    (left right : Store Workspace) : Prop where
  leftDescends : Descends folder origin left
  rightDescends : Descends folder origin right
  tables : ∀ name, target = some (Text.fold name) →
    left.catalog.find? name = right.catalog.find? name
  entries : ∀ name ∈ origin.catalog.names, target = some (Text.fold name) → ∀ place,
    origin.storage.locate (folder.tablePath name) = .ok place →
      left.storage.entryAt? place = right.storage.entryAt? place

theorem AgreeOn.symm
    {folder : Folder}
    {origin left right : Store Workspace}
    {target : Option String}
    (agree : AgreeOn folder origin target left right) :
    AgreeOn folder origin target right left where
  leftDescends := agree.rightDescends
  rightDescends := agree.leftDescends
  tables name isTarget := (agree.tables name isTarget).symm
  entries name member isTarget place located :=
    (agree.entries name member isTarget place located).symm

theorem AgreeOn.trans
    {folder : Folder}
    {origin left middle right : Store Workspace}
    {target : Option String}
    (first : AgreeOn folder origin target left middle)
    (second : AgreeOn folder origin target middle right) :
    AgreeOn folder origin target left right where
  leftDescends := first.leftDescends
  rightDescends := second.rightDescends
  tables name isTarget := (first.tables name isTarget).trans (second.tables name isTarget)
  entries name member isTarget place located :=
    (first.entries name member isTarget place located).trans
      (second.entries name member isTarget place located)

/-- Stores that agree on every table have the same tables and the same entries at all places. -/
theorem eq_of_agreeOn
    {folder : Folder}
    {origin left right : Store Workspace}
    (agree : ∀ target, AgreeOn folder origin target left right) :
    left.catalog = right.catalog ∧
      ∀ place, left.storage.entryAt? place = right.storage.entryAt? place := by
  have leftDescends := (agree none).leftDescends
  have rightDescends := (agree none).rightDescends
  constructor
  · apply leftDescends.sound.ext rightDescends.sound
    · rw [leftDescends.names_eq, rightDescends.names_eq]
    · exact fun name _ => (agree (some (Text.fold name))).tables name rfl
  · intro place
    by_cases isDataFile : ∃ name ∈ origin.catalog.names,
        origin.storage.locate (folder.tablePath name) = .ok place
    · obtain ⟨name, member, located⟩ := isDataFile
      exact (agree (some (Text.fold name))).entries name member rfl place located
    · simp only [not_exists, not_and] at isDataFile
      rw [leftDescends.elsewhere place isDataFile, rightDescends.elsewhere place isDataFile]

/-! ## Statements on other tables -/

/-- A statement that does not name the table may be in one run only. -/
theorem AgreeOn.other
    {folder : Folder}
    (unbroken : '/' ∉ folder.suffix.toList)
    {origin left right after : Store Workspace}
    (areNames : ∀ name ∈ origin.catalog.names, SchemaFile.IsName name)
    {target other : Option String}
    (agree : AgreeOn folder origin target left right)
    (differ : other ≠ target)
    (confined : Confined folder other left after) :
    AgreeOn folder origin target after right where
  leftDescends := agree.leftDescends.confined confined
  rightDescends := agree.rightDescends
  tables name isTarget := by
    rw [confined.tables name (isTarget ▸ differ), agree.tables name isTarget]
  entries name member isTarget place located := by
    rw [← agree.entries name member isTarget place located]
    rcases confined.files with same | ⟨own, ownMember, isOther, bytes, puts⟩
    · rw [same]
    · rw [agree.leftDescends.names_eq] at ownMember
      have names : own ≠ name := by
        rintro rfl
        exact differ (isOther.trans isTarget.symm)
      apply puts.entryAt?_eq
      have apart := Folder.apart_of_unbroken unbroken left.storage (areNames own ownMember)
        (areNames name member) names
      intro ownLocated
      exact apart place ownLocated ((agree.leftDescends.samePlaces.located _ place).2 located)

/-! ## Statements on the table -/

/-- A change that is written alike has the same answer and leaves the same entry. -/
theorem conclude_alike
    {place : List String}
    {left right : Workspace}
    {leftReport rightReport : WriteReport Workspace}
    (alike : Alike place left right leftReport.result rightReport.result)
    (sameEntry : left.entryAt? place = right.entryAt? place)
    (outcome : Option String → Outcome) :
    conclude outcome leftReport = conclude outcome rightReport ∧
      (leftReport.state left).entryAt? place = (rightReport.state right).entryAt? place := by
  unfold conclude WriteReport.state
  revert alike
  generalize leftReport.result = leftResult
  generalize rightReport.result = rightResult
  rintro (fault | bytes)
  · exact ⟨rfl, sameEntry⟩
  · refine ⟨rfl, ?_⟩
    by_cases root : place = []
    · rw [root]
      rfl
    · dsimp only
      rw [Workspace.entryAt?_insert _ root, Workspace.entryAt?_insert _ root, if_pos rfl,
        if_pos rfl]

/-- A plan that changes a table is answered alike where the entries of its data file agree. -/
theorem Plan.answer_alike
    {folder : Folder}
    {plan : Plan}
    {table : Table}
    (changed : plan.changed? = some table)
    {name : String}
    (named : table.name = some name)
    {left right : Workspace}
    {place : List String}
    (leftReceives : left.Receives (folder.tablePath name) place)
    (rightReceives : right.Receives (folder.tablePath name) place)
    (sameEntry : left.entryAt? place = right.entryAt? place) :
    plan.answer (plan.attempt? folder.gateway left) =
        plan.answer (plan.attempt? folder.gateway right) ∧
      (storageAfter (plan.attempt? folder.gateway left) left).entryAt? place =
        (storageAfter (plan.attempt? folder.gateway right) right).entryAt? place := by
  cases plan with
  | select result => cases changed
  | insert own row =>
      obtain rfl := Option.some.inj changed
      apply conclude_alike ?_ sameEntry
      change Alike place left right (folder.append own row left).result
        (folder.append own row right).result
      rw [folder.append_result named, folder.append_result named]
      exact Folder.appendTo_alike leftReceives rightReceives sameEntry row
  | delete own count =>
      obtain rfl := Option.some.inj changed
      apply conclude_alike ?_ sameEntry
      change Alike place left right (folder.overwrite own left).result
        (folder.overwrite own right).result
      rw [folder.overwrite_result named, folder.overwrite_result named]
      exact Folder.overwriteWith_alike leftReceives rightReceives sameEntry own.rows

theorem Plan.tablesAfter_eq_update
    {plan : Plan}
    {table : Table}
    (changed : plan.changed? = some table)
    (catalog : Catalog) :
    plan.tablesAfter catalog = catalog.update (table.name.getD "") table := by
  cases plan with
  | select result => cases changed
  | insert own row =>
      cases changed
      rfl
  | delete own count =>
      cases changed
      rfl

/-- All tables that the runs start with have their data files in a directory that is there. -/
def Received (folder : Folder) (origin : Store Workspace) : Prop :=
  ∀ name ∈ origin.catalog.names, ∃ place, origin.storage.Receives (folder.tablePath name) place

/-- A plan that changes the table has the same answer in both runs, and both agree on the table
after it. -/
theorem AgreeOn.planned
    {folder : Folder}
    {origin left right : Store Workspace}
    (received : Received folder origin)
    {statement : Statement}
    (agree : AgreeOn folder origin (some (Text.fold statement.table)) left right)
    {plan : Plan}
    (planned : Plan.ofStatement right.catalog statement = .ok plan)
    {table : Table}
    (changed : plan.changed? = some table) :
    plan.answer (plan.attempt? folder.gateway left.storage) =
        plan.answer (plan.attempt? folder.gateway right.storage) ∧
      (∀ name, Text.fold statement.table = Text.fold name →
        (plan.tablesAfter left.catalog).find? name =
          (plan.tablesAfter right.catalog).find? name) ∧
      ∀ name ∈ origin.catalog.names, Text.fold statement.table = Text.fold name → ∀ place,
        origin.storage.locate (folder.tablePath name) = .ok place →
          (storageAfter (plan.attempt? folder.gateway left.storage) left.storage).entryAt? place =
            (storageAfter (plan.attempt? folder.gateway right.storage)
              right.storage).entryAt? place := by
  have sound := agree.rightDescends.sound
  obtain ⟨_, old, found, sameName⟩ := Plan.changed?_eq_some sound.conforming planned changed
  have leftFound := (agree.tables statement.table rfl).trans found
  obtain ⟨own, member, named, folded⟩ := sound.exists_name found
  have inOrigin : own ∈ origin.catalog.names := agree.rightDescends.names_eq ▸ member
  obtain ⟨place, receives⟩ := received own inOrigin
  have isTarget : some (Text.fold statement.table) = some (Text.fold own) := by rw [folded]
  obtain ⟨sameAnswer, sameEntry⟩ := Plan.answer_alike changed (sameName.trans named)
    (receives.mono agree.leftDescends.samePlaces agree.leftDescends.directories)
    (receives.mono agree.rightDescends.samePlaces agree.rightDescends.directories)
    (agree.entries own inOrigin isTarget place receives.located)
  refine ⟨sameAnswer, ?_, ?_⟩
  · intro name same
    rw [Plan.tablesAfter_eq_update changed, Plan.tablesAfter_eq_update changed,
      Catalog.find?_update leftFound sameName, Catalog.find?_update found sameName,
      if_pos same.symm, if_pos same.symm]
  · intro name nameMember same otherPlace located
    have nameInRight : name ∈ right.catalog.names := agree.rightDescends.names_eq ▸ nameMember
    obtain rfl := sound.name_eq_of_fold_eq member nameInRight (folded.trans same)
    obtain rfl := Except.ok.inj (receives.located.symm.trans located)
    exact sameEntry

/-- Whatever is planned for the table has the same answer in both runs, and both agree on the table
after it. -/
theorem AgreeOn.carriedOut
    {folder : Folder}
    {origin left right : Store Workspace}
    (received : Received folder origin)
    {statement : Statement}
    (agree : AgreeOn folder origin (some (Text.fold statement.table)) left right)
    {plan : Plan}
    (planned : Plan.ofStatement right.catalog statement = .ok plan)
    (leftDescends : Descends folder origin ⟨plan.tablesAfter left.catalog,
      storageAfter (plan.attempt? folder.gateway left.storage) left.storage⟩)
    (rightDescends : Descends folder origin ⟨plan.tablesAfter right.catalog,
      storageAfter (plan.attempt? folder.gateway right.storage) right.storage⟩) :
    plan.answer (plan.attempt? folder.gateway left.storage) =
        plan.answer (plan.attempt? folder.gateway right.storage) ∧
      AgreeOn folder origin (some (Text.fold statement.table))
        ⟨plan.tablesAfter left.catalog,
          storageAfter (plan.attempt? folder.gateway left.storage) left.storage⟩
        ⟨plan.tablesAfter right.catalog,
          storageAfter (plan.attempt? folder.gateway right.storage) right.storage⟩ := by
  cases changed : plan.changed? with
  | none =>
      cases plan with
      | select result => exact ⟨rfl, leftDescends, rightDescends, agree.tables, agree.entries⟩
      | insert table row => cases changed
      | delete table count => cases changed
  | some table =>
      obtain ⟨sameAnswer, tables, entries⟩ := agree.planned received planned changed
      refine ⟨sameAnswer, leftDescends, rightDescends, ?_, ?_⟩
      · exact fun name same => tables name (Option.some.inj same)
      · exact fun name member same => entries name member (Option.some.inj same)

/-- A statement that names the table has the same result in both runs, and both agree on the table
after it. -/
theorem AgreeOn.own
    {folder : Folder}
    {origin left right : Store Workspace}
    (received : Received folder origin)
    {target : Option String}
    (agree : AgreeOn folder origin target left right)
    {first second : Database Workspace}
    (firstHolds : first.Holds left)
    (secondHolds : second.Holds right)
    {sql : String}
    (isTarget : targetOf? sql = target) :
    (first.execute folder.gateway sql).result = (second.execute folder.gateway sql).result ∧
      ∃ leftAfter rightAfter,
        (first.execute folder.gateway sql).database.Holds leftAfter ∧
        (second.execute folder.gateway sql).database.Holds rightAfter ∧
        AgreeOn folder origin target leftAfter rightAfter := by
  obtain ⟨leftAfter, leftHeld, leftConfined⟩ :=
    confined_perform folder firstHolds agree.leftDescends.sound (.text sql)
  obtain ⟨rightAfter, rightHeld, rightConfined⟩ :=
    confined_perform folder secondHolds agree.rightDescends.sound (.text sql)
  have leftDescends := agree.leftDescends.confined leftConfined
  have rightDescends := agree.rightDescends.confined rightConfined
  have firstLoaded := firstHolds.catalog_eq
  have secondLoaded := secondHolds.catalog_eq
  obtain ⟨leftStorage, leftCatalog, _, _, _⟩ := first
  obtain ⟨rightStorage, rightCatalog, _, _, _⟩ := second
  obtain ⟨rfl, rfl⟩ := firstHolds
  obtain ⟨rfl, rfl⟩ := secondHolds
  have samePlan : Plan.ofText left.catalog sql = Plan.ofText right.catalog sql := by
    apply Plan.ofText_congr
    intro statement parsed
    apply agree.tables
    rw [← isTarget, targetOf?, parsed]
    rfl
  cases planned : Plan.ofText right.catalog sql with
  | error answer =>
      obtain ⟨_, leftResult, leftHolds⟩ :=
        trial_of_unplanned folder.gateway firstLoaded (samePlan.trans planned)
      obtain ⟨_, rightResult, rightHolds⟩ := trial_of_unplanned folder.gateway secondLoaded planned
      obtain rfl := leftHeld.eq leftHolds
      obtain rfl := rightHeld.eq rightHolds
      refine ⟨leftResult.trans rightResult.symm, _, _, leftHolds, rightHolds, ?_⟩
      exact ⟨leftDescends, rightDescends, agree.tables, agree.entries⟩
  | ok plan =>
      obtain ⟨_, leftResult, leftHolds⟩ :=
        trial_of_planned folder.gateway firstLoaded (samePlan.trans planned)
      obtain ⟨_, rightResult, rightHolds⟩ := trial_of_planned folder.gateway secondLoaded planned
      obtain rfl := leftHeld.eq leftHolds
      obtain rfl := rightHeld.eq rightHolds
      obtain ⟨statement, parsed, plannedStatement⟩ := Plan.ofText_eq_ok_iff.1 planned
      obtain rfl : some (Text.fold statement.table) = target := by
        rw [← isTarget, targetOf?, parsed]
        rfl
      obtain ⟨sameAnswer, after⟩ :=
        agree.carriedOut received plannedStatement leftDescends rightDescends
      exact ⟨leftResult.trans (sameAnswer.trans rightResult.symm), _, _, leftHolds, rightHolds,
        after⟩

/-! ## Runs -/

/-- The statements that name a table have the same results without the statements between them, and
both runs agree on the table. -/
theorem AgreeOn.run
    {folder : Folder}
    (unbroken : '/' ∉ folder.suffix.toList)
    {origin left right : Store Workspace}
    (areNames : ∀ name ∈ origin.catalog.names, SchemaFile.IsName name)
    (received : Received folder origin)
    {target : Option String}
    (agree : AgreeOn folder origin target left right)
    {first second : Database Workspace}
    (firstHolds : first.Holds left)
    (secondHolds : second.Holds right)
    {sqls : List String}
    {replies : List Reply}
    (answered : (first.executeMany folder.gateway sqls).result = .ok replies) :
    (second.executeMany folder.gateway (sqls.filter (targetOf? · = target))).result =
        .ok (((sqls.zip replies).filter (targetOf? ·.1 = target)).map Prod.snd) ∧
      ∃ leftAfter rightAfter,
        (first.executeMany folder.gateway sqls).database.Holds leftAfter ∧
        (second.executeMany folder.gateway
          (sqls.filter (targetOf? · = target))).database.Holds rightAfter ∧
        AgreeOn folder origin target leftAfter rightAfter := by
  induction sqls generalizing left right first second replies with
  | nil =>
      cases answered
      exact ⟨rfl, left, right, firstHolds, secondHolds, agree⟩
  | cons sql rest inductionHypothesis =>
      simp only [Database.executeMany] at answered ⊢
      cases one : (first.execute folder.gateway sql).result with
      | error fault => simp [one] at answered
      | ok reply =>
          simp only [one, map_eq_ok_iff] at answered
          obtain ⟨others, answeredRest, rfl⟩ := answered
          by_cases isTarget : targetOf? sql = target
          · obtain ⟨same, leftMiddle, rightMiddle, leftHeld, rightHeld, agreeThen⟩ :=
              agree.own received firstHolds secondHolds isTarget
            obtain ⟨ownRest, leftAfter, rightAfter, leftHolds, rightHolds, agreeAfter⟩ :=
              inductionHypothesis agreeThen leftHeld rightHeld answeredRest
            rw [one] at same
            simp only [isTarget, decide_true, List.filter_cons_of_pos, Database.executeMany,
              ← same, List.zip_cons_cons, List.map_cons, ownRest]
            exact ⟨rfl, leftAfter, rightAfter, leftHolds, rightHolds, agreeAfter⟩
          · obtain ⟨leftMiddle, leftHeld, confined⟩ :=
              confined_perform folder firstHolds agree.leftDescends.sound (.text sql)
            have agreeThen := agree.other unbroken areNames isTarget confined
            simpa [List.filter_cons_of_neg, isTarget, Database.perform] using
              inductionHypothesis agreeThen leftHeld secondHolds answeredRest

/-- Answered statements that pass a test are those whose texts do, with their replies. -/
private theorem filter_zip_eq
    {sqls others : List String}
    {replies otherReplies : List Reply}
    (lengths : replies.length = sqls.length)
    (otherLengths : otherReplies.length = others.length)
    {test : String → Bool}
    (sameTexts : others.filter test = sqls.filter test)
    (sameReplies : ((others.zip otherReplies).filter (test ·.1)).map Prod.snd =
      ((sqls.zip replies).filter (test ·.1)).map Prod.snd) :
    (others.zip otherReplies).filter (test ·.1) = (sqls.zip replies).filter (test ·.1) := by
  have texts : ∀ {list : List String} {answers : List Reply}, answers.length = list.length →
      ((list.zip answers).filter (test ·.1)).map Prod.fst = list.filter test := by
    intro list answers sameLength
    rw [← Function.comp_def test Prod.fst, ← List.filter_map, List.map_fst_zip sameLength.ge]
  rw [List.zip_of_prod (texts otherLengths) rfl, List.zip_of_prod (texts lengths) rfl, sameTexts,
    sameReplies]

/-- Two runs that have the same texts for a table, in the same order, agree on the table in the end,
and these texts have the same replies in both. -/
theorem AgreeOn.interleaved
    {folder : Folder}
    (unbroken : '/' ∉ folder.suffix.toList)
    {origin store : Store Workspace}
    (areNames : ∀ name ∈ origin.catalog.names, SchemaFile.IsName name)
    (received : Received folder origin)
    {target : Option String}
    (agree : AgreeOn folder origin target store store)
    {database : Database Workspace}
    (holds : database.Holds store)
    {sqls others : List String}
    (sameTexts : others.filter (targetOf? · = target) = sqls.filter (targetOf? · = target))
    {replies otherReplies : List Reply}
    (answered : (database.executeMany folder.gateway sqls).result = .ok replies)
    (otherAnswered : (database.executeMany folder.gateway others).result = .ok otherReplies)
    {final otherFinal : Store Workspace}
    (finalHolds : (database.executeMany folder.gateway sqls).database.Holds final)
    (otherHolds : (database.executeMany folder.gateway others).database.Holds otherFinal) :
    (others.zip otherReplies).filter (targetOf? ·.1 = target) =
        (sqls.zip replies).filter (targetOf? ·.1 = target) ∧
      AgreeOn folder origin target otherFinal final := by
  obtain ⟨_, _, lengths, _⟩ := run_executeMany folder.gateway holds answered
  obtain ⟨_, _, otherLengths, _⟩ := run_executeMany folder.gateway holds otherAnswered
  -- both runs are compared with the one that has the texts for this table only
  obtain ⟨result, left, alone, leftHolds, aloneHolds, after⟩ :=
    agree.run unbroken areNames received holds holds answered
  obtain ⟨otherResult, right, same, rightHolds, sameHolds, otherAfter⟩ :=
    agree.run unbroken areNames received holds holds otherAnswered
  rw [sameTexts] at otherResult sameHolds
  obtain rfl := leftHolds.eq finalHolds
  obtain rfl := rightHolds.eq otherHolds
  obtain rfl := aloneHolds.eq sameHolds
  refine ⟨?_, otherAfter.trans after.symm⟩
  apply filter_zip_eq lengths.symm otherLengths.symm sameTexts
  exact Except.ok.inj (otherResult.symm.trans result)

/-- Over a folder with the default file names, every statement of a run has a reply. The statements
that name a table have the same replies if they are executed without the others, and then the
table has the same rows and its data file the same content. So statements on different tables can be
interleaved in any way: each has the same reply, and in the end all tables and all files are the
same. -/
theorem tables_do_not_interfere
    (directory : Path)
    {idle : Database Workspace}
    (started : (idle.start (Folder.usual directory).gateway).result = .ok ())
    (sqls : List String) :
    ∃ (loaded : Catalog) (replies : List Reply),
      let run := idle.session (Folder.usual directory).gateway
      (idle.start (Folder.usual directory).gateway).database.catalog = some loaded ∧
      (run sqls).result = .ok replies ∧ replies.length = sqls.length ∧
      (∀ name : String,
        let own := run (sqls.filter (targetOf? · = some (Text.fold name)))
        own.result =
          .ok (((sqls.zip replies).filter (targetOf? ·.1 = some (Text.fold name))).map Prod.snd) ∧
        own.database.catalog.bind (·.find? name) =
          (run sqls).database.catalog.bind (·.find? name) ∧
        (name ∈ loaded.names →
          own.database.storage.read ((Folder.usual directory).tablePath name) =
            (run sqls).database.storage.read ((Folder.usual directory).tablePath name))) ∧
      ∀ others : List String,
        (∀ target, others.filter (targetOf? · = target) = sqls.filter (targetOf? · = target)) →
        ∃ otherReplies,
          (run others).result = .ok otherReplies ∧
          (∀ target, (others.zip otherReplies).filter (targetOf? ·.1 = target) =
            (sqls.zip replies).filter (targetOf? ·.1 = target)) ∧
          (run others).database.catalog = (run sqls).database.catalog ∧
          ∀ place, (run others).database.storage.entryAt? place =
            (run sqls).database.storage.entryAt? place := by
  have plain := Folder.plain_usual directory
  obtain ⟨loaded, load, held⟩ := holds_start started
  have sound : loaded.Sound := (Folder.usual directory).loadsSound _ _ load
  rw [Folder.gateway_load] at load
  have areNames := Folder.isName_of_load load
  have separate := plain.separate_of_load load fun name _ => Folder.usual_apart directory name
  have receives : Received (Folder.usual directory) ⟨loaded, idle.storage⟩ :=
    fun name member => plain.exists_receives load member
  have answer := (follows_load load separate).exists_replies plain sound held
  have agree : ∀ target, AgreeOn (Folder.usual directory) ⟨loaded, idle.storage⟩ target
      ⟨loaded, idle.storage⟩ ⟨loaded, idle.storage⟩ :=
    fun target => ⟨.refl _ sound, .refl _ sound, fun _ _ => rfl, fun _ _ _ _ _ => rfl⟩
  obtain ⟨replies, answered⟩ := answer sqls
  obtain ⟨final, finalHolds, lengths, _⟩ := run_executeMany _ held answered
  refine ⟨loaded, replies, held.catalog_eq, answered, lengths.symm, ?_, ?_⟩
  · intro name
    obtain ⟨result, left, right, leftHolds, rightHolds, after⟩ :=
      (agree (some (Text.fold name))).run plain.suffix_unbroken areNames receives held held answered
    refine ⟨result, ?_, ?_⟩
    · rw [Database.session, Database.session, leftHolds.catalog_eq, rightHolds.catalog_eq]
      exact (after.tables name rfl).symm
    · intro member
      obtain ⟨place, received⟩ := receives name member
      rw [Database.session, Database.session, leftHolds.storage_eq, rightHolds.storage_eq]
      apply Workspace.read_alike
      · exact received.mono after.rightDescends.samePlaces after.rightDescends.directories
      · exact received.mono after.leftDescends.samePlaces after.leftDescends.directories
      · exact (after.entries name member rfl place received.located).symm
  · intro others sameTexts
    obtain ⟨otherReplies, otherAnswered⟩ := answer others
    obtain ⟨otherFinal, otherHolds, _⟩ := run_executeMany _ held otherAnswered
    have compared := fun target => (agree target).interleaved plain.suffix_unbroken areNames
      receives held (sameTexts target) answered otherAnswered finalHolds otherHolds
    obtain ⟨catalogs, entries⟩ := eq_of_agreeOn fun target => (compared target).2
    refine ⟨otherReplies, otherAnswered, fun target => (compared target).1, ?_, ?_⟩
    · rw [Database.session, Database.session, otherHolds.catalog_eq, finalHolds.catalog_eq,
        catalogs]
    · rw [Database.session, Database.session, otherHolds.storage_eq, finalHolds.storage_eq]
      exact entries

/-- An insertion and a deletion on one table, an insertion into another and a text that cannot be
read leave the same tables and files in two orders. -/
theorem tables_do_not_interfere_two_orders :
    let run := (sampleDatabase "T(a:Integer)\nU(b:Text)\n").session sampleFolder.gateway
    let first := run ["INSERT INTO T (a) VALUES (1)", "INSERT INTO u (b) VALUES ('x')",
      "DELETE FROM t", "DROP"]
    let second := run ["DROP", "INSERT INTO u (b) VALUES ('x')", "INSERT INTO T (a) VALUES (1)",
      "DELETE FROM t"]
    second.database.catalog = first.database.catalog ∧
      ∀ place, second.database.storage.entryAt? place = first.database.storage.entryAt? place := by
  have started : ((sampleDatabase "T(a:Integer)\nU(b:Text)\n").start
      sampleFolder.gateway).result = .ok () := by
    decide +kernel
  obtain ⟨_, _, _, _, _, _, interleaved⟩ := tables_do_not_interfere (.ofString "db") started
    ["INSERT INTO T (a) VALUES (1)", "INSERT INTO u (b) VALUES ('x')", "DELETE FROM t", "DROP"]
  have targets : targetOf? "INSERT INTO T (a) VALUES (1)" = some "t" ∧
      targetOf? "INSERT INTO u (b) VALUES ('x')" = some "u" ∧
      targetOf? "DELETE FROM t" = some "t" ∧ targetOf? "DROP" = none := by
    decide +kernel
  obtain ⟨insertion, other, deletion, unread⟩ := targets
  have sameTexts : ∀ target,
      ["DROP", "INSERT INTO u (b) VALUES ('x')", "INSERT INTO T (a) VALUES (1)",
          "DELETE FROM t"].filter (targetOf? · = target) =
        ["INSERT INTO T (a) VALUES (1)", "INSERT INTO u (b) VALUES ('x')", "DELETE FROM t",
          "DROP"].filter (targetOf? · = target) := by
    intro target
    simp only [List.filter_cons, List.filter_nil, insertion, other, deletion, unread]
    cases target with
    | none => simp
    | some name =>
        by_cases isT : name = "t"
        · simp [isT]
        · by_cases isU : name = "u" <;> simp [isU, Ne.symm isT]
  obtain ⟨_, _, _, same⟩ := interleaved _ sameTexts
  exact same

end Engine
end FlatTables
