import FlatTables.Proofs.Storage.Reloading

/-!
# Why a folder is not loaded

The schema file is read first, and then the data files in its order, up to the first that cannot be
read. Almost every failure is a storage fault and names the file it is about. The others are listed
here: bytes that are no text, a path that cannot be asked about, and a path that cannot be tried.
-/

namespace FlatTables
namespace Storage

/-! ## Files that are named -/

/-- The fault names the file at a path. -/
def StorageFault.IsAbout (fault : StorageFault) (path : Path) : Prop :=
  fault.shownPath? = some path.text

namespace SchemaFile

theorem isAbout_of_readAttributes
    {path : Path}
    {number : Nat}
    {tokens : List (List Char)}
    {fault : StorageFault}
    (failed : readAttributes path number tokens = .error fault) :
    fault.IsAbout path := by
  induction tokens with
  | nil => cases failed
  | cons token rest inductionHypothesis =>
      unfold readAttributes at failed
      cases first : readAttribute path number (Text.trimChars token) with
      | ok attr =>
          rw [first] at failed
          exact inductionHypothesis (map_eq_error_iff.1 failed)
      | error own =>
          simp only [first, Except.error.injEq] at failed
          subst failed
          unfold readAttribute at first
          split at first
          · cases first
            rfl
          · split at first
            · cases first
              rfl
            · cases first

theorem isAbout_of_readLine
    {path : Path}
    {number : Nat}
    {line : List Char}
    {fault : StorageFault}
    (failed : readLine path number line = .error fault) :
    fault.IsAbout path := by
  unfold readLine at failed
  split at failed
  · cases failed
    rfl
  · split at failed
    · rename_i own readTokens
      cases failed
      exact isAbout_of_readAttributes readTokens
    · split at failed
      · cases failed
        rfl
      · cases failed

theorem isAbout_of_readLines
    {path : Path}
    {seen : List String}
    {numbered : List (List Char × Nat)}
    {fault : StorageFault}
    (failed : readLines path seen numbered = .error fault) :
    fault.IsAbout path := by
  induction numbered generalizing seen with
  | nil => cases failed
  | cons first rest inductionHypothesis =>
      obtain ⟨line, number⟩ := first
      unfold readLines at failed
      dsimp only at failed
      split at failed
      · exact inductionHypothesis failed
      · split at failed
        · rename_i own readOwn
          cases failed
          exact isAbout_of_readLine readOwn
        · rename_i name schema readOwn
          split at failed
          · cases failed
            rfl
          · exact inductionHypothesis (map_eq_error_iff.1 failed)

/-- Whatever is wrong with the text of a schema file, the fault names the file. -/
theorem isAbout_of_ofText
    {path : Path}
    {text : String}
    {fault : StorageFault}
    (failed : ofText path text = .error fault) :
    fault.IsAbout path :=
  isAbout_of_readLines failed

end SchemaFile

/-- Whatever is wrong with the lines of a data file, the fault names the file. -/
theorem DataFile.isAbout_of_readLines
    {path : Path}
    {schema : Schema}
    {numbered : List (String × Nat)}
    {fault : StorageFault}
    (failed : readLines path schema numbered = .error fault) :
    fault.IsAbout path := by
  induction numbered with
  | nil => cases failed
  | cons first rest inductionHypothesis =>
      obtain ⟨line, number⟩ := first
      unfold readLines at failed
      split at failed
      · exact inductionHypothesis failed
      · split at failed
        · rename_i own readOwn
          cases failed
          unfold readLine at readOwn
          dsimp only at readOwn
          split at readOwn
          · cases readOwn
            rfl
          · obtain ⟨rejection, _, rfl⟩ := mapError_eq_error_iff.1 readOwn
            rfl
        · exact inductionHypothesis (map_eq_error_iff.1 failed)

namespace Folder

variable {folder : Folder} {workspace : Workspace}

/-! ## The schema file -/

/-- What keeps the schema file from being read without being a storage fault. -/
inductive EscapesSchema (folder : Folder) (workspace : Workspace) : Fault → Prop
  | untried
      (null : holdsNull folder.schemaPath.text = true) :
      EscapesSchema folder workspace .nullCharacter
  | undecodable {bytes : ByteArray} {own : Text.EncodingFault}
      (read : workspace.read folder.schemaPath = .ok bytes)
      (decoded : Text.decode bytes = .error own) :
      EscapesSchema folder workspace (.encoding own)

/-- A fault of the schema file escapes or names the file. -/
theorem readSchemas_eq_error
    {fault : Fault}
    (failed : folder.readSchemas workspace = .error fault) :
    EscapesSchema folder workspace fault ∨
      ∃ own, fault = .storage own ∧ own.IsAbout folder.schemaPath := by
  unfold readSchemas at failed
  cases read : workspace.read folder.schemaPath with
  | error access =>
      cases access with
      | nullCharacter =>
          simp only [read, Except.error.injEq] at failed
          subst failed
          refine .inl (.untried ?_)
          cases null : holdsNull folder.schemaPath.text with
          | true => rfl
          | false =>
              obtain ⟨cause, impossible⟩ := Workspace.isSystem_of_read null read
              cases impossible
      | system cause =>
          simp only [read] at failed
          split at failed
          · cases failed
            exact .inr ⟨_, rfl, rfl⟩
          · cases failed
            exact .inr ⟨_, rfl, rfl⟩
  | ok bytes =>
      simp only [read] at failed
      cases decoded : Text.decode bytes with
      | error own =>
          simp only [decoded, Except.error.injEq] at failed
          exact .inl (failed ▸ .undecodable read decoded)
      | ok text =>
          simp only [decoded, mapError_eq_error_iff] at failed
          obtain ⟨own, parsed, rfl⟩ := failed
          exact .inr ⟨own, rfl, SchemaFile.isAbout_of_ofText parsed⟩

/-- What escapes is what reading the schema file comes to. -/
theorem EscapesSchema.readSchemas_eq
    {fault : Fault}
    (escapes : EscapesSchema folder workspace fault) :
    folder.readSchemas workspace = .error fault := by
  unfold readSchemas
  cases escapes with
  | untried null => simp [Workspace.read, Workspace.locateFor, null]
  | undecodable read decoded => simp [read, decoded]

/-! ## Data files -/

/-- What keeps a data file from being read without being a storage fault. -/
inductive EscapesTable (folder : Folder) (workspace : Workspace) (named : NamedSchema) :
    Fault → Prop
  | unasked
      (noNull : holdsNull (folder.tablePath named.1).text = false)
      (long : workspace.locate (folder.tablePath named.1) = .error .nameTooLong) :
      EscapesTable folder workspace named
        (.system (Obstacle.nameTooLong.fault [(folder.tablePath named.1).text]))
  | undecodable {bytes : ByteArray} {own : Text.EncodingFault} {rows : List Row}
      (read : workspace.read (folder.tablePath named.1) = .ok bytes)
      (decoded : (Text.decodeStream bytes).fault = some own)
      (linesBefore : DataFile.readLines (folder.tablePath named.1) named.2
        ((Text.decodeStream bytes).lines.zipIdx 1) = .ok rows) :
      EscapesTable folder workspace named (.encoding own)

/-- The question whether something is there fails for the length of a name only. -/
theorem isPresent_eq_error_iff
    (path : Path)
    (fault : SystemFault) :
    workspace.isPresent path = .error fault ↔
      holdsNull path.text = false ∧ workspace.locate path = .error .nameTooLong ∧
        fault = Obstacle.nameTooLong.fault [path.text] := by
  unfold Workspace.isPresent
  cases holdsNull path.text with
  | true => simp
  | false =>
      cases located : workspace.locate path with
      | ok place => simp
      | error obstacle => cases obstacle <;> simp [eq_comm]

/-- The bytes of a data file are faulty as a text only if all lines before the fault are rows. -/
theorem rowsOfBytes_eq_error
    {path : Path}
    {schema : Schema}
    {bytes : ByteArray}
    {fault : Fault}
    (failed : rowsOfBytes path schema bytes = .error fault) :
    (∃ own, fault = .storage own ∧ own.IsAbout path) ∨
      ∃ own rows, fault = .encoding own ∧ (Text.decodeStream bytes).fault = some own ∧
        DataFile.readLines path schema ((Text.decodeStream bytes).lines.zipIdx 1) = .ok rows := by
  unfold rowsOfBytes at failed
  dsimp only at failed
  split at failed
  · rename_i own read
    cases failed
    exact .inl ⟨own, rfl, DataFile.isAbout_of_readLines read⟩
  · rename_i rows own read decoded
    cases failed
    exact .inr ⟨own, rows, rfl, decoded, read⟩
  · cases failed

/-- A fault of a data file escapes or names the file. -/
theorem readRows_eq_error
    {named : NamedSchema}
    {fault : Fault}
    (failed : (folder.readRows named.1 named.2 workspace).result = .error fault) :
    EscapesTable folder workspace named fault ∨
      ∃ own, fault = .storage own ∧ own.IsAbout (folder.tablePath named.1) := by
  simp only [readRows] at failed
  cases isPresent : workspace.isPresent (folder.tablePath named.1) with
  | error cause =>
      simp only [isPresent, Except.error.injEq] at failed
      obtain ⟨noNull, long, rfl⟩ := (isPresent_eq_error_iff ..).1 isPresent
      exact .inl (failed ▸ .unasked noNull long)
  | ok found =>
      cases found with
      | false => simp [isPresent] at failed
      | true =>
          have noNull : holdsNull (folder.tablePath named.1).text = false := by
            refine Bool.eq_false_iff.2 fun null => ?_
            simp [Workspace.isPresent, null] at isPresent
          simp only [isPresent] at failed
          cases read : workspace.read (folder.tablePath named.1) with
          | error access =>
              obtain ⟨cause, rfl⟩ := Workspace.isSystem_of_read noNull read
              simp only [read, Except.error.injEq] at failed
              exact .inr ⟨_, failed.symm, rfl⟩
          | ok bytes =>
              simp only [read] at failed
              cases rows : rowsOfBytes (folder.tablePath named.1) named.2 bytes with
              | ok given => simp [rows] at failed
              | error own =>
                  simp only [rows, Except.error.injEq] at failed
                  subst failed
                  refine (rowsOfBytes_eq_error rows).symm.imp ?_ id
                  rintro ⟨cause, given, rfl, decoded, linesBefore⟩
                  exact .undecodable read decoded linesBefore

/-- What escapes is what reading the data file comes to. -/
theorem EscapesTable.readRows_eq
    {named : NamedSchema}
    {fault : Fault}
    (escapes : EscapesTable folder workspace named fault) :
    (folder.readRows named.1 named.2 workspace).result = .error fault := by
  cases escapes with
  | unasked noNull long =>
      simp only [readRows, (isPresent_eq_error_iff ..).2 ⟨noNull, long, rfl⟩]
  | undecodable read decoded linesBefore =>
      simp only [readRows, Workspace.isPresent_of_read read, read, rowsOfBytes, linesBefore, decoded]

/-! ## The whole folder -/

/-- A table is reached: the schema file lists it, and all tables before it are read. -/
def Reaches (folder : Folder) (workspace : Workspace) (named : NamedSchema) : Prop :=
  ∃ before after, folder.readSchemas workspace = .ok (before ++ named :: after) ∧
    ∀ other ∈ before, ∃ rows, (folder.readRows other.1 other.2 workspace).result = .ok rows

/-- Tables are not loaded exactly if one of them cannot be read and all before it are. -/
theorem loadTables_eq_error_iff
    {schemas : List NamedSchema}
    (distinct : (schemas.map fun named => Text.fold named.1).Nodup)
    {catalog : Catalog}
    (fresh : ∀ named ∈ schemas, catalog.find? named.1 = none)
    (fault : Fault) :
    (folder.loadTables workspace catalog schemas).result = .error fault ↔
      ∃ named,
        Reached (fun other => ∃ rows, (folder.readRows other.1 other.2 workspace).result = .ok rows)
          schemas named ∧
        (folder.readRows named.1 named.2 workspace).result = .error fault := by
  induction schemas generalizing catalog with
  | nil => simp [loadTables_nil]
  | cons first rest inductionHypothesis =>
      obtain ⟨unlike, restDistinct⟩ := List.nodup_cons.1 (List.map_cons ▸ distinct)
      rw [exists_reached_cons_iff]
      cases read : (folder.readRows first.1 first.2 workspace).result with
      | error own =>
          have unregistered : (folder.loadTable workspace first catalog).result = .error own := by
            simp only [loadTable, read]
            rfl
          conv_lhs => unfold loadTables
          simp [unregistered]
      | ok rows =>
          obtain ⟨registered, freshAfter⟩ :=
            loadTable_of_readRows first read (fresh first List.mem_cons_self)
          conv_lhs => unfold loadTables
          simp only [registered]
          rw [inductionHypothesis restDistinct]
          · simp
          · intro named member
            refine freshAfter named.1 ?_ (fresh named (List.mem_cons_of_mem first member))
            exact fun same => unlike (same ▸ List.mem_map_of_mem member)

/-- A folder is not loaded exactly if the schema file or a table that is reached cannot be read. -/
theorem load_eq_error_iff (fault : Fault) :
    (folder.load workspace).result = .error fault ↔
      folder.readSchemas workspace = .error fault ∨
        ∃ named, folder.Reaches workspace named ∧
          (folder.readRows named.1 named.2 workspace).result = .error fault := by
  unfold load Reaches
  cases read : folder.readSchemas workspace with
  | error own => simp
  | ok schemas =>
      obtain ⟨text, _, parsed⟩ := (readSchemas_eq_ok_iff ..).1 read
      simp only [reduceCtorEq, false_or]
      rw [loadTables_eq_error_iff (SchemaFile.ofText_eq_ok parsed).1 (fun _ _ => rfl)]
      constructor
      · rintro ⟨named, ⟨before, after, rfl, readBefore⟩, failed⟩
        exact ⟨named, ⟨before, after, rfl, readBefore⟩, failed⟩
      · rintro ⟨named, ⟨before, after, same, readBefore⟩, failed⟩
        exact ⟨named, ⟨before, after, Except.ok.inj same, readBefore⟩, failed⟩

/-- What keeps a folder from being loaded without being a storage fault. -/
inductive Escapes (folder : Folder) (workspace : Workspace) : Fault → Prop
  | schema {fault : Fault}
      (escapes : EscapesSchema folder workspace fault) :
      Escapes folder workspace fault
  | table {named : NamedSchema} {fault : Fault}
      (reached : folder.Reaches workspace named)
      (escapes : EscapesTable folder workspace named fault) :
      Escapes folder workspace fault

/-- What escapes is not a storage fault. -/
theorem Escapes.ne_storage
    {fault : Fault}
    (escapes : folder.Escapes workspace fault)
    (own : StorageFault) :
    fault ≠ .storage own := by
  rcases escapes with escapes | ⟨_, escapes⟩ <;> cases escapes <;> simp

/-- What escapes is what loading the folder comes to. -/
theorem Escapes.load_eq
    {fault : Fault}
    (escapes : folder.Escapes workspace fault) :
    (folder.load workspace).result = .error fault := by
  rw [load_eq_error_iff]
  cases escapes with
  | schema escapes => exact .inl escapes.readSchemas_eq
  | table reached escapes => exact .inr ⟨_, reached, escapes.readRows_eq⟩

/-- The storage fault is about the schema file, or about the data file of the first table that
cannot be read. -/
inductive BlamesFile (folder : Folder) (workspace : Workspace) (own : StorageFault) : Prop
  | schema
      (failed : folder.readSchemas workspace = .error (.storage own))
      (isAbout : own.IsAbout folder.schemaPath)
  | table {named : NamedSchema}
      (reached : folder.Reaches workspace named)
      (failed : (folder.readRows named.1 named.2 workspace).result = .error (.storage own))
      (isAbout : own.IsAbout (folder.tablePath named.1))

/-- If a folder is not loaded, the fault escapes or it is a storage fault that names the file. -/
theorem load_eq_error
    {fault : Fault}
    (failed : (folder.load workspace).result = .error fault) :
    folder.Escapes workspace fault ∨
      ∃ own, fault = .storage own ∧ folder.BlamesFile workspace own := by
  rcases (load_eq_error_iff fault).1 failed with read | ⟨named, reached, read⟩
  · refine (readSchemas_eq_error read).imp .schema ?_
    rintro ⟨own, rfl, isAbout⟩
    exact ⟨own, rfl, .schema read isAbout⟩
  · refine (readRows_eq_error read).imp (.table reached) ?_
    rintro ⟨own, rfl, isAbout⟩
    exact ⟨own, rfl, .table reached read isAbout⟩

end Folder
end Storage
end FlatTables
