import FlatTables.Storage.DataFile
import FlatTables.Storage.Gateway
import FlatTables.Storage.SchemaFile

/-!
# Tables in a folder

Tables kept in a directory: a schema file lists them, and each has a data file named after it. A
missing data file is an empty table. A row is appended to its file on a line of its own; a table
is overwritten through a temporary file that then takes the place of the old one.
-/

namespace FlatTables
namespace Storage

open Telemetry (Event)

/-- Where a folder is and how its files are called. -/
structure Folder where
  directory : Path
  schemaFile : String
  suffix : String
  deriving DecidableEq, Repr

namespace Folder

/-- The path of the schema file. -/
def schemaPath (folder : Folder) : Path :=
  folder.directory.join folder.schemaFile

/-- The path of the data file of a table. -/
def tablePath (folder : Folder) (table : String) : Path :=
  folder.directory.join (table ++ folder.suffix)

/-! ## Loading -/

/-- Read the schema file. -/
def readSchemas (folder : Folder) (workspace : Workspace) : Except Fault (List NamedSchema) :=
  let path := folder.schemaPath
  match workspace.read path with
  | .error .nullCharacter => .error .nullCharacter
  | .error (.system cause) =>
      if cause = Obstacle.notFound.fault [path.text] then .error (.storage (.schemaNotFound path))
      else .error (.storage (.schemaUnreadable cause path))
  | .ok bytes =>
      match Text.decode bytes with
      | .error fault => .error (.encoding fault)
      | .ok text => (SchemaFile.ofText path text).mapError .storage

/-- What reading a table came to: its rows or a fault, and the events logged on the way. -/
structure RowsReport where
  result : Except Fault (List Row)
  events : List Event

/-- Read the bytes of a data file. -/
def rowsOfBytes (path : Path) (schema : Schema) (bytes : ByteArray) : Except Fault (List Row) :=
  let stream := Text.decodeStream bytes
  match DataFile.readLines path schema (stream.lines.zipIdx 1), stream.fault with
  | .error fault, _ => .error (.storage fault)
  | .ok _, some fault => .error (.encoding fault)
  | .ok rows, none => .ok rows

/-- Read the rows of a table. -/
def readRows (folder : Folder) (table : String) (schema : Schema) (workspace : Workspace) :
    RowsReport :=
  let path := folder.tablePath table
  match workspace.isPresent path with
  | .error fault => ⟨.error (.system fault), []⟩
  | .ok false => ⟨.ok [], [.tableFileMissing table path.text]⟩
  | .ok true =>
      match workspace.read path with
      | .error .nullCharacter => ⟨.error .nullCharacter, []⟩
      | .error (.system cause) => ⟨.error (.storage (.tableUnreadable table cause path)), []⟩
      | .ok bytes =>
          match rowsOfBytes path schema bytes with
          | .error fault => ⟨.error fault, []⟩
          | .ok rows => ⟨.ok rows, [.tableLoaded table rows.length]⟩

/-- Read a table and register it. -/
def loadTable (folder : Folder) (workspace : Workspace) (named : NamedSchema) (catalog : Catalog) :
    LoadReport :=
  let report := folder.readRows named.1 named.2 workspace
  let result := do
    let rows ← report.result
    let table ← (Table.ofRows (some named.1) named.2 rows).mapError Fault.row
    (catalog.add table).mapError Fault.catalog
  ⟨result, report.events⟩

/-- Read tables and register them in order, stopping at the first fault. -/
def loadTables (folder : Folder) (workspace : Workspace) (catalog : Catalog) :
    List NamedSchema → LoadReport
  | [] => ⟨.ok catalog, [.catalogLoaded folder.directory.text catalog.names]⟩
  | named :: rest =>
      let report := folder.loadTable workspace named catalog
      match report.result with
      | .error fault => ⟨.error fault, report.events⟩
      | .ok catalog =>
          let others := loadTables folder workspace catalog rest
          ⟨others.result, report.events ++ others.events⟩

/-- Read all tables of a folder. -/
def load (folder : Folder) (workspace : Workspace) : LoadReport :=
  match folder.readSchemas workspace with
  | .error fault => ⟨.error fault, []⟩
  | .ok schemas => folder.loadTables workspace {} schemas

/-! ## Writing -/

/-- The failure of a row that cannot be written to a file. -/
def encodingFailure (path : Path) : DataFile.EncodingFault → WriteFault
  | .oversizedInteger => .oversizedInteger
  | .needsEscape field => .storage (.needsEscape field path)
  | .blank => .storage (.blankRow path)

/-- The file at a path takes a further line as it is. -/
def takesLine (workspace : Workspace) (path : Path) : Except AccessFault Bool :=
  match workspace.isPresent path with
  | .error fault => .error (.system fault)
  | .ok false => .ok true
  | .ok true => (workspace.read path).map DataFile.endsLine

/-- Add a line to the file at a path, on a line of its own. -/
def appendLine (workspace : Workspace) (path : Path) (line : String) :
    Except AccessFault Workspace :=
  match takesLine workspace path with
  | .error fault => .error fault
  | .ok atLineStart => workspace.append path (DataFile.ownLine atLineStart line).toUTF8

/-- Append a row to the file of a named table. -/
def appendTo (folder : Folder) (name : String) (row : Row) (workspace : Workspace) :
    Except WriteFault Workspace :=
  let path := folder.tablePath name
  match DataFile.encode row with
  | .error fault => .error (encodingFailure path fault)
  | .ok line =>
      match appendLine workspace path line with
      | .ok workspace => .ok workspace
      | .error .nullCharacter => .error .nullCharacter
      | .error (.system cause) => .error (.storage (.appendFailed name cause path))

/-- Append a row to the file of a table. -/
def append (folder : Folder) (table : Table) (row : Row) (workspace : Workspace) :
    WriteReport Workspace :=
  match table.name with
  | none => ⟨.error (.storage .unnamedTable), []⟩
  | some name =>
      match folder.appendTo name row workspace with
      | .error fault => ⟨.error fault, []⟩
      | .ok workspace => ⟨.ok workspace, [.rowAppended name (folder.tablePath name).text]⟩

/-- Put rows in place of the file of a named table. A failure leaves the workspace as it is here. A
null character before double dots in the path leaves the temporary file behind, which the steps of
`overwriteBySteps` tell, since its name is different every time. -/
def overwriteWith (folder : Folder) (name : String) (rows : List Row) (workspace : Workspace) :
    Except WriteFault Workspace :=
  let path := folder.tablePath name
  match DataFile.encodeAll rows with
  | .error fault => .error (encodingFailure path fault)
  | .ok lines =>
      match workspace.temporaryPlace path with
      | .error fault => .error (.ofAccess fault)
      | .ok _ =>
          match workspace.replace path (DataFile.textOf lines).toUTF8 with
          | .ok workspace => .ok workspace
          | .error .nullCharacter => .error .nullCharacter
          | .error (.system cause) => .error (.storage (.overwriteFailed cause path))

/-- Put the rows of a table in place of its file. -/
def overwrite (folder : Folder) (table : Table) (workspace : Workspace) : WriteReport Workspace :=
  match table.name with
  | none => ⟨.error (.storage .unnamedTable), []⟩
  | some name =>
      match folder.overwriteWith name table.rows workspace with
      | .error fault => ⟨.error fault, []⟩
      | .ok workspace => ⟨.ok workspace, [.tableOverwritten name table.size]⟩

/-- The gateway to a folder of the workspace. -/
def gateway (folder : Folder) : Gateway Workspace where
  load := folder.load
  append := folder.append
  overwrite := folder.overwrite

end Folder
end Storage
end FlatTables
