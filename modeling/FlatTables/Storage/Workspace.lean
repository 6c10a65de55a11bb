import FlatTables.Storage.Path
import FlatTables.Text.Quoted

/-!
# Workspaces

A workspace is the tree of files and directories below the current directory. Reading, appending
and replacing a file either succeed or fail for one of the reasons an operating system gives, and
a failure leaves the workspace as it was. Paths outside the workspace lead nowhere.
-/

namespace FlatTables
namespace Storage

/-- What stands at a path. -/
inductive Entry
  | file (content : ByteArray)
  | directory

instance : DecidableEq Entry
  | .file left, .file right =>
      match ByteArray.decEq left right with
      | .isTrue same => .isTrue (same ▸ rfl)
      | .isFalse differ => .isFalse fun equal => differ (Entry.file.inj equal)
  | .directory, .directory => .isTrue rfl
  | .file _, .directory => .isFalse nofun
  | .directory, .file _ => .isFalse nofun

/-- Files and directories by their place below the current directory, which is not listed. -/
structure Workspace where
  entries : List (List String × Entry) := []
  deriving DecidableEq

/-- A failure reported by the operating system: a plain text, or a numbered one with the paths it
is about. -/
inductive SystemFault
  | plain (text : String)
  | numbered (number : Int) (text : String) (paths : List String)
  deriving DecidableEq, Repr

/-- The message of a system fault. -/
def SystemFault.message : SystemFault → String
  | .plain text => text
  | .numbered number text paths =>
      let message := "[Errno " ++ toString number ++ "] " ++ text
      match paths with
      | [] => message
      | paths => message ++ ": " ++ String.intercalate " -> " (paths.map Text.quoted)

/-- Why a path cannot be followed or opened. -/
inductive Obstacle
  | notFound
  | notDirectory
  | isDirectory
  | nameTooLong
  | busy
  deriving DecidableEq, Repr

/-- The system fault for an obstacle met with some paths. -/
def Obstacle.fault (obstacle : Obstacle) (paths : List String) : SystemFault :=
  match obstacle with
  | .notFound => .numbered 2 "No such file or directory" paths
  | .notDirectory => .numbered 20 "Not a directory" paths
  | .isDirectory => .numbered 21 "Is a directory" paths
  | .nameTooLong => .numbered 36 "File name too long" paths
  | .busy => .numbered 16 "Device or resource busy" paths

/-- Why a file operation fails: the operating system refuses it, or the path holds a null
character and is not even tried. -/
inductive AccessFault
  | system (fault : SystemFault)
  | nullCharacter
  deriving DecidableEq, Repr

/-- The most bytes a component of a path may have. -/
def maxNameBytes : Nat := 255

/-- The most bytes a whole path may have. -/
def maxPathBytes : Nat := 4095

/-- The text holds a null character. -/
def holdsNull (s : String) : Bool :=
  s.toList.contains '\x00'

namespace Workspace

/-- What stands at a place. The current directory is always there. -/
def entryAt? (workspace : Workspace) (place : List String) : Option Entry :=
  if place = [] then some .directory else workspace.entries.lookup place

/-- Put an entry at a place. -/
def insert (workspace : Workspace) (place : List String) (entry : Entry) : Workspace :=
  if workspace.entries.any (·.1 = place) then
    { entries := workspace.entries.map fun old => if old.1 = place then (place, entry) else old }
  else { entries := workspace.entries ++ [(place, entry)] }

/-- Remove a place and everything below it. -/
def erase (workspace : Workspace) (place : List String) : Workspace :=
  { entries := workspace.entries.filter fun entry => !place.isPrefixOf entry.1 }

/-- Put an entry at a place and make the directories above it. -/
def plant (workspace : Workspace) (place : List String) (entry : Entry) : Workspace :=
  let above := (List.range place.length).map place.take
  let grown := above.foldl
    (fun workspace directory =>
      if (workspace.entryAt? directory).isSome then workspace
      else workspace.insert directory .directory)
    workspace
  grown.insert place entry

/-- Follow components from a directory. Every component but the last has to lead to a
directory. -/
def follow (workspace : Workspace) (place : List String) :
    List String → Except Obstacle (List String)
  | [] => .ok place
  | ".." :: rest => if place = [] then .error .notFound else follow workspace place.dropLast rest
  | name :: rest =>
      if maxNameBytes < name.utf8ByteSize then .error .nameTooLong
      else if rest = [] then .ok (place ++ [name])
      else
        match workspace.entryAt? (place ++ [name]) with
        | some .directory => follow workspace (place ++ [name]) rest
        | some (.file _) => .error .notDirectory
        | none => .error .notFound

/-- The place a path leads to. -/
def locate (workspace : Workspace) (path : Path) : Except Obstacle (List String) :=
  if maxPathBytes < path.text.utf8ByteSize then .error .nameTooLong
  else if path.root ≠ "" then .error .notFound
  else workspace.follow [] path.components

/-- Locate a path for an operation whose failure mentions some paths. -/
def locateFor (workspace : Workspace) (path : Path) (mentioned : List String) :
    Except AccessFault (List String) :=
  if holdsNull path.text then .error .nullCharacter
  else (workspace.locate path).mapError fun obstacle => .system (obstacle.fault mentioned)

/-- Something stands at a path. Only a name that is too long makes the question fail. -/
def isPresent (workspace : Workspace) (path : Path) : Except SystemFault Bool :=
  if holdsNull path.text then .ok false
  else
    match workspace.locate path with
    | .ok place => .ok (workspace.entryAt? place).isSome
    | .error .nameTooLong => .error (Obstacle.nameTooLong.fault [path.text])
    | .error _ => .ok false

/-- The bytes of the file at a path. -/
def read (workspace : Workspace) (path : Path) : Except AccessFault ByteArray :=
  match workspace.locateFor path [path.text] with
  | .error fault => .error fault
  | .ok place =>
      match workspace.entryAt? place with
      | some (.file content) => .ok content
      | some .directory => .error (.system (Obstacle.isDirectory.fault [path.text]))
      | none => .error (.system (Obstacle.notFound.fault [path.text]))

/-- Add bytes at the end of the file at a path, which is made if there is none. -/
def append (workspace : Workspace) (path : Path) (bytes : ByteArray) :
    Except AccessFault Workspace :=
  match workspace.locateFor path [path.text] with
  | .error fault => .error fault
  | .ok place =>
      match workspace.entryAt? place with
      | some (.file content) => .ok (workspace.insert place (.file (content ++ bytes)))
      | some .directory => .error (.system (Obstacle.isDirectory.fault [path.text]))
      | none => .ok (workspace.insert place (.file bytes))

/-- How messages show the name of a temporary file, which is different every time. -/
def temporaryName : String := "<tmp>"

/-- How many bytes the name of a temporary file has more than the name of its target: dots on
both sides, eight random characters, and a suffix. -/
def temporaryExtra : Nat := 14

/-- The directory in which the temporary file for a path can be made. Double dots on the way to it
are resolved by the text of the path, before anything is followed. -/
def temporaryPlace (workspace : Workspace) (path : Path) : Except AccessFault (List String) :=
  if holdsNull path.name then .error .nullCharacter
  else
    match workspace.locateFor path.parent.settled [temporaryName] with
    | .error fault => .error fault
    | .ok place =>
        match workspace.entryAt? place with
        | none => .error (.system (Obstacle.notFound.fault [temporaryName]))
        | some (.file _) => .error (.system (Obstacle.notDirectory.fault [temporaryName]))
        | some .directory =>
            if maxNameBytes < path.name.utf8ByteSize + temporaryExtra then
              .error (.system (Obstacle.nameTooLong.fault [temporaryName]))
            else .ok place

/-- Why a file cannot be moved over a directory: a path that ends in dots names no entry. -/
def overDirectory (path : Path) : Obstacle :=
  if path.name = "" ∨ path.name = ".." then .busy else .isDirectory

/-- Move a finished temporary file over a path. -/
def replace (workspace : Workspace) (path : Path) (bytes : ByteArray) :
    Except AccessFault Workspace :=
  let mentioned := [temporaryName, path.text]
  match workspace.locateFor path mentioned with
  | .error fault => .error fault
  | .ok place =>
      match workspace.entryAt? place with
      | some .directory => .error (.system ((overDirectory path).fault mentioned))
      | _ => .ok (workspace.insert place (.file bytes))

end Workspace
end Storage
end FlatTables
