import FlatTables.Text.Field

/-!
# Paths

A path is a root and the components below it. Empty components and single dots are dropped when
a path is read; double dots stay. Joining a path with one that has a root gives the latter.
-/

namespace FlatTables
namespace Storage

/-- A path: nothing, one slash or two slashes, and the components after it. -/
structure Path where
  root : String
  components : List String
  deriving DecidableEq, Repr

namespace Path

/-- The root of a path. Exactly two slashes are a root of their own; more count as one. -/
def rootOf : List Char → String
  | ['/', '/'] => "//"
  | '/' :: '/' :: c :: _ => if c = '/' then "/" else "//"
  | '/' :: _ => "/"
  | _ => ""

/-- Read a path. -/
def ofString (s : String) : Path :=
  ⟨rootOf s.toList,
    ((Text.splitFields '/' s.toList).map String.ofList).filter fun name => name ≠ "" ∧ name ≠ "."⟩

/-- The text of a path; the empty path is a single dot. -/
def text (path : Path) : String :=
  let s := path.root ++ String.intercalate "/" path.components
  if s = "" then "." else s

/-- The path a text leads to from another path. -/
def join (path : Path) (s : String) : Path :=
  let further := ofString s
  if further.root = "" then ⟨path.root, path.components ++ further.components⟩ else further

/-- The last component. -/
def name (path : Path) : String :=
  path.components.getLast?.getD ""

/-- The path without its last component. -/
def parent (path : Path) : Path :=
  ⟨path.root, path.components.dropLast⟩

/-- Components with every double dot resolved by leaving out the component before it, whatever may
stand there. `done` holds the components before; double dots at the front stay. -/
def settle (done : List String) : List String → List String
  | [] => done
  | name :: rest =>
      if name = ".." ∧ done ≠ [] ∧ done.getLast? ≠ some ".." then settle done.dropLast rest
      else settle (done ++ [name]) rest

/-- The path with its double dots resolved by its text alone. -/
def settled (path : Path) : Path :=
  ⟨path.root, settle [] path.components⟩

end Path
end Storage
end FlatTables
