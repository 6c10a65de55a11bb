import FlatTables.Engine.Database
import FlatTables.Proofs.Storage.FileNames
import FlatTables.Storage.Journal

/-!
# Sample tables

Small tables in a journal and in a folder, and failures of their writes, for the examples that stand
beside the theorems.
-/

namespace FlatTables

open Storage (Folder Gateway Journal SystemFault Workspace WriteFault)

/-- The system fault of a device that is full. -/
def Storage.noSpace : SystemFault :=
  .numbered 28 "No space left on device" []

/-- A workspace with one directory, in which files may stand. -/
def Storage.Folder.sampleWorkspace (files : List (String × String)) : Workspace where
  entries := (["db"], .directory) ::
    files.map fun (name, content) => (["db", name], .file content.toUTF8)

namespace Engine

/-- A table of one integer column with one row. -/
def sampleTable : Table where
  name := some "T"
  schema := ⟨[⟨"a", .integer⟩], by decide⟩
  rows := [[.integer 1]]

/-- A database that is not started, over a journal that describes the table. -/
def sampleJournal : Database Journal where
  storage := { drafts := [⟨sampleTable.name, sampleTable.schema.attributes, sampleTable.rows⟩] }

/-- A database over a folder whose schema file has one line. -/
def sampleDatabase (line : String) : Database Workspace where
  storage := { entries := [(["db"], .directory), (["db", "schema.txt"], .file line.toUTF8)] }

/-- The folder of that database. -/
def sampleFolder : Folder :=
  .usual (.ofString "db")

/-- The same folder, with names of data files that end in a null character. -/
def nullFolder : Folder :=
  { sampleFolder with suffix := ".\x00" }

/-- Data files with such names count as missing, so the tables can be loaded. -/
theorem start_nullFolder :
    ((sampleDatabase "T(a:Integer)\n").start nullFolder.gateway).result = .ok () := by
  decide +kernel

/-- The one table that is loaded is empty. -/
theorem catalog_nullFolder :
    ((sampleDatabase "T(a:Integer)\n").start nullFolder.gateway).database.catalog =
      some ⟨[{ sampleTable with rows := [] }]⟩ := by
  decide +kernel

/-- A full disk. -/
def fullDisk : WriteFault :=
  .system Storage.noSpace

/-- A gateway with room for a number of writes. After them the disk is full. -/
def limitedGateway : Gateway Nat where
  load _ := ⟨.ok ⟨[sampleTable]⟩, []⟩
  append _ _ room := if room = 0 then ⟨.error fullDisk, []⟩ else ⟨.ok (room - 1), []⟩
  overwrite _ room := if room = 0 then ⟨.error fullDisk, []⟩ else ⟨.ok (room - 1), []⟩

end Engine
end FlatTables
