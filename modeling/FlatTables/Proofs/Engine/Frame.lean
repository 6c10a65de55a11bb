import FlatTables.Proofs.Engine.Encodable
import FlatTables.Proofs.Samples
import FlatTables.Proofs.Storage.Footprint

/-!
# What a statement leaves alone

A statement changes at most the table it names, in memory and in the file of that table. A run of
statements therefore leaves everything as it is but the files of the tables that it names. That
includes the schema file, unless a table is called such that its data file is the schema file.
-/

namespace FlatTables
namespace Engine

open Query (Statement)
open Storage

variable {σ : Type}

/-! ## Tables named by statements -/

/-- The folded name of the table that a text names, if it can be read as a statement. -/
def targetOf? (sql : String) : Option String :=
  (Statement.parse sql).toOption.map fun statement => Text.fold statement.table

/-- The folded name of the table that a call names. -/
def Call.target? : Call → Option String
  | .text sql => targetOf? sql
  | .built statement => some (Text.fold statement.table)

/-! ## One statement -/

/-- Only the named table has changed, and on the storage only its file. -/
structure Confined (folder : Folder) (target : Option String) (before after : Store Workspace) :
    Prop where
  sound : after.catalog.Sound
  names_eq : after.catalog.tables.map Table.name = before.catalog.tables.map Table.name
  tables : ∀ name, target ≠ some (Text.fold name) →
    after.catalog.find? name = before.catalog.find? name
  files : after.storage = before.storage ∨
    ∃ name ∈ before.catalog.names, target = some (Text.fold name) ∧
      ∃ bytes, Workspace.Puts before.storage (folder.tablePath name) bytes after.storage

/-- Whatever leaves a sound store as it is, is confined. -/
theorem Confined.refl
    (folder : Folder)
    (target : Option String)
    {store : Store Workspace}
    (sound : store.catalog.Sound) :
    Confined folder target store store :=
  ⟨sound, rfl, fun _ _ => rfl, .inl rfl⟩

/-- A new version of a found table is confined if the write touches its file only. -/
theorem confined_update
    {folder : Folder}
    {before : Store Workspace}
    (sound : before.catalog.Sound)
    {name : String}
    {old table : Table}
    (found : before.catalog.find? name = some old)
    (sameName : table.name = old.name)
    (conforming : table.Conforming)
    {after : Workspace}
    (touches : ∀ own, table.name = some own → before.storage.Touches (folder.tablePath own) after) :
    Confined folder (some (Text.fold name)) before
      ⟨before.catalog.update (table.name.getD "") table, after⟩ where
  sound := sound.update found sameName conforming
  names_eq := sound.names_update found sameName
  tables other differs := by
    rw [Catalog.find?_update found sameName, if_neg]
    rintro same
    exact differs (congrArg some same.symm)
  files := by
    obtain ⟨own, member, named, folded⟩ := sound.exists_name found
    refine (touches own (sameName.trans named)).imp id fun puts => ⟨own, member, ?_, puts⟩
    rw [folded]

/-- Carrying out a statement is confined to the table that it names. -/
theorem confined_ofStatement
    (folder : Folder)
    {before : Store Workspace}
    (sound : before.catalog.Sound)
    (statement : Statement) :
    Confined folder (some (Text.fold statement.table)) before
      (Execution.ofStatement folder.gateway before statement).store := by
  unfold Execution.ofStatement
  cases planned : Plan.ofStatement before.catalog statement with
  | error fault => exact .refl folder _ sound
  | ok plan =>
      have changes : ∀ table, plan.changed? = some table → _ :=
        fun table => Plan.changed?_eq_some sound.conforming planned
      cases plan with
      | select result => exact .refl folder _ sound
      | insert table row =>
          obtain ⟨conforming, old, found, sameName⟩ := changes table rfl
          dsimp only [Execution.ofPlan]
          rw [(ofWrite_eq _ _ _ _ _ _ .insert).1]
          apply confined_update sound found sameName conforming
          intro own named
          exact folder.touches_append named row before.storage
      | delete table count =>
          obtain ⟨conforming, old, found, sameName⟩ := changes table rfl
          dsimp only [Execution.ofPlan]
          rw [(ofWrite_eq _ _ _ _ _ _ .delete).1]
          apply confined_update sound found sameName conforming
          intro own named
          exact folder.touches_overwrite named before.storage

/-- A call of a started database is confined to the table that it names. -/
theorem confined_perform
    (folder : Folder)
    {database : Database Workspace}
    {before : Store Workspace}
    (holds : database.Holds before)
    (sound : before.catalog.Sound)
    (call : Call) :
    ∃ after, (database.perform folder.gateway call).database.Holds after ∧
      Confined folder call.target? before after := by
  obtain ⟨storage, loaded, executed, failed, lastStatement⟩ := database
  obtain ⟨rfl, rfl⟩ := holds
  cases call with
  | built statement =>
      exact ⟨_, ⟨rfl, rfl⟩, confined_ofStatement folder sound statement⟩
  | text sql =>
      simp only [Database.perform, Database.execute, Database.answer, Call.target?, targetOf?]
      cases Statement.parse sql with
      | error rejection => exact ⟨before, ⟨rfl, rfl⟩, .refl folder _ sound⟩
      | ok statement =>
          obtain ⟨_, held⟩ := carryOut_eq folder.gateway
            ⟨before.storage, some before.catalog, executed, failed, lastStatement + 1⟩
            before.catalog statement
          exact ⟨_, held, confined_ofStatement folder sound statement⟩

/-! ## Runs -/

/-- A store that a run has reached from another: it has the same names of tables, every path leads
where it led, and nothing has changed but the data files. -/
structure Descends (folder : Folder) (origin store : Store Workspace) : Prop where
  sound : store.catalog.Sound
  names_eq : store.catalog.names = origin.catalog.names
  samePlaces : Workspace.SamePlaces origin.storage store.storage
  directories : ∀ place, origin.storage.entryAt? place = some .directory →
    store.storage.entryAt? place = some .directory
  elsewhere : ∀ place,
    (∀ name ∈ origin.catalog.names, origin.storage.locate (folder.tablePath name) ≠ .ok place) →
      store.storage.entryAt? place = origin.storage.entryAt? place

theorem Descends.refl
    (folder : Folder)
    {store : Store Workspace}
    (sound : store.catalog.Sound) :
    Descends folder store store :=
  ⟨sound, rfl, ⟨fun _ _ => .rfl, fun _ => .rfl⟩, fun _ isDirectory => isDirectory, fun _ _ => rfl⟩

/-- A confined step stays in a run. -/
theorem Descends.confined
    {folder : Folder}
    {target : Option String}
    {origin before after : Store Workspace}
    (descends : Descends folder origin before)
    (confined : Confined folder target before after) :
    Descends folder origin after := by
  have names : after.catalog.names = origin.catalog.names := by
    rw [← descends.names_eq, Catalog.names_eq_filterMap, confined.names_eq,
      ← Catalog.names_eq_filterMap]
  rcases confined.files with same | ⟨name, member, _, bytes, puts⟩
  · refine ⟨confined.sound, names, ?_, ?_, ?_⟩
    · exact same ▸ descends.samePlaces
    · exact same ▸ descends.directories
    · exact same ▸ descends.elsewhere
  · rw [descends.names_eq] at member
    refine ⟨confined.sound, names, descends.samePlaces.trans puts.samePlaces, ?_, ?_⟩
    · intro place isDirectory
      exact puts.entryAt?_directory (descends.directories place isDirectory)
    · intro place notDataFile
      rw [puts.entryAt?_eq, descends.elsewhere place notDataFile]
      intro located
      exact notDataFile name member ((descends.samePlaces.located _ place).1 located)

/-- Calls on a started database make up a run. -/
theorem descends_afterCalls
    {folder : Folder}
    {origin before : Store Workspace}
    (descends : Descends folder origin before)
    {database : Database Workspace}
    (holds : database.Holds before)
    (calls : List Call) :
    ∃ after, (database.afterCalls folder.gateway calls).Holds after ∧
      Descends folder origin after := by
  induction calls generalizing database before with
  | nil => exact ⟨before, holds, descends⟩
  | cons call rest inductionHypothesis =>
      obtain ⟨middle, held, confined⟩ := confined_perform folder holds descends.sound call
      exact inductionHypothesis (descends.confined confined) held

/-- A file keeps its content through calls if no table that they name has its data file at the same
place. -/
theorem hasContent_afterCalls
    {folder : Folder}
    {database : Database Workspace}
    {before : Store Workspace}
    (holds : database.Holds before)
    (sound : before.catalog.Sound)
    {path : Path}
    {calls : List Call}
    (apart : ∀ name ∈ before.catalog.names,
      (∃ call ∈ calls, call.target? = some (Text.fold name)) →
        before.storage.Apart (folder.tablePath name) path)
    {content : Option ByteArray}
    (hasContent : before.storage.HasContent path content) :
    (database.afterCalls folder.gateway calls).storage.HasContent path content := by
  induction calls generalizing database before with
  | nil => exact holds.storage_eq ▸ hasContent
  | cons call rest inductionHypothesis =>
      obtain ⟨middle, held, confined⟩ := confined_perform folder holds sound call
      have descends := (Descends.refl folder sound).confined confined
      refine inductionHypothesis held confined.sound ?_ ?_
      · intro name member named
        obtain ⟨other, inRest, target⟩ := named
        rw [descends.names_eq] at member
        apply descends.samePlaces.apart
        exact apart name member ⟨other, List.mem_cons_of_mem call inRest, target⟩
      · rcases confined.files with same | ⟨name, member, target, bytes, puts⟩
        · exact same ▸ hasContent
        · exact puts.frame (apart name member ⟨call, List.mem_cons_self, target⟩) hasContent

/-- Whatever calls have been made since the start of a database over a folder, a further call
changes no place but that of the data file of the table it names. So the data file of a table keeps
its content through all calls that name other tables. The schema file keeps its content through all
calls if no table that they name has its data file in the place of the schema file. -/
theorem calls_change_named_files
    (folder : Folder)
    (unbroken : '/' ∉ folder.suffix.toList)
    {idle : Database Workspace}
    (started : (idle.start folder.gateway).result = .ok ()) :
    ∃ loaded : Catalog, (idle.start folder.gateway).database.catalog = some loaded ∧
      ∀ calls : List Call,
        let reached := (idle.start folder.gateway).database.afterCalls folder.gateway calls
        (∀ (call : Call) (place : List String),
          (∀ name ∈ loaded.names, call.target? = some (Text.fold name) →
            reached.storage.locate (folder.tablePath name) ≠ .ok place) →
          (reached.perform folder.gateway call).database.storage.entryAt? place =
            reached.storage.entryAt? place) ∧
        (∀ name ∈ loaded.names, ∀ later : List Call,
          (∀ call ∈ later, call.target? ≠ some (Text.fold name)) →
          ∀ content, reached.storage.HasContent (folder.tablePath name) content →
            (reached.afterCalls folder.gateway later).storage.HasContent
              (folder.tablePath name) content) ∧
        ((∀ name ∈ loaded.names, (∃ call ∈ calls, call.target? = some (Text.fold name)) →
            idle.storage.Apart (folder.tablePath name) folder.schemaPath) →
          ∀ content, idle.storage.HasContent folder.schemaPath content →
            reached.storage.HasContent folder.schemaPath content) := by
  obtain ⟨loaded, load, held⟩ := holds_start started
  have sound : loaded.Sound := folder.loadsSound _ _ load
  rw [Folder.gateway_load] at load
  have areNames := Folder.isName_of_load load
  refine ⟨loaded, held.catalog_eq, fun calls => ?_⟩
  obtain ⟨store, heldAfter, descends⟩ :=
    descends_afterCalls (Descends.refl folder sound) held calls
  refine ⟨?_, ?_, ?_⟩
  · intro call place notOwn
    obtain ⟨after, heldThen, confined⟩ :=
      confined_perform folder heldAfter descends.sound call
    rw [heldThen.storage_eq, heldAfter.storage_eq]
    rw [heldAfter.storage_eq] at notOwn
    rcases confined.files with same | ⟨name, member, target, bytes, puts⟩
    · rw [same]
    · rw [descends.names_eq] at member
      exact puts.entryAt?_eq (notOwn name member target)
  · intro name member later others content hasContent
    apply hasContent_afterCalls heldAfter descends.sound ?_ (heldAfter.storage_eq ▸ hasContent)
    rintro other otherMember ⟨call, inLater, target⟩
    rw [descends.names_eq] at otherMember
    apply Folder.apart_of_unbroken unbroken _ (areNames other otherMember) (areNames name member)
    rintro rfl
    exact others call inLater target
  · intro apart content hasContent
    exact hasContent_afterCalls held sound apart hasContent

/-- The file of a table keeps the row that was written to it through an insertion into another
table, a rejected deletion and a text that cannot be read. -/
theorem calls_change_named_files_sample :
    ((((sampleDatabase "T(a:Integer)\nU(b:Text)\n").start sampleFolder.gateway).database.afterCalls
        sampleFolder.gateway [.text "INSERT INTO u (b) VALUES ('x')"]).afterCalls
        sampleFolder.gateway
        [.text "INSERT INTO T (a) VALUES (1)", .text "DELETE FROM t WHERE b = 2",
          .text "DROP U"]).storage.HasContent (sampleFolder.tablePath "U")
      (some "x\n".toUTF8) := by
  have started : ((sampleDatabase "T(a:Integer)\nU(b:Text)\n").start
      sampleFolder.gateway).result = .ok () := by
    decide +kernel
  obtain ⟨loaded, tables, changes⟩ := calls_change_named_files sampleFolder (by decide) started
  have names : "U" ∈ loaded.names := by
    have loadedNames : ((sampleDatabase "T(a:Integer)\nU(b:Text)\n").start
        sampleFolder.gateway).database.catalog.map Catalog.names = some ["T", "U"] := by
      decide +kernel
    rw [tables] at loadedNames
    rw [Option.some.inj loadedNames]
    simp
  obtain ⟨_, others, _⟩ := changes [.text "INSERT INTO u (b) VALUES ('x')"]
  apply others "U" names
  · decide +kernel
  · change Workspace.read _ _ = _
    decide +kernel

/-- If a table is called such that its data file is the schema file, a deletion from it overwrites
the schema file. -/
theorem schema_file_can_be_overwritten :
    ¬ ∀ (folder : Folder) (idle : Database Workspace) (sqls : List String) (schemas : ByteArray),
      folder.suffix.toList.head? = some '.' → '/' ∉ folder.suffix.toList →
        (idle.start folder.gateway).result = .ok () →
          idle.storage.read folder.schemaPath = .ok schemas →
            ((idle.start folder.gateway).database.afterCalls folder.gateway
              (sqls.map .text)).storage.read folder.schemaPath = .ok schemas := by
  intro always
  have kept := always ⟨.ofString "db", "schema.txt", ".txt"⟩ (sampleDatabase "schema(a:Text)\n")
    ["DELETE FROM schema"] "schema(a:Text)\n".toUTF8 (by decide) (by decide) (by decide +kernel)
    (by decide +kernel)
  exact absurd kept (by decide +kernel)

end Engine
end FlatTables
