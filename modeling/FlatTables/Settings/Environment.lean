import FlatTables.Document.Json
import FlatTables.Settings.Basic

/-!
# Settings from the environment

Environment variables give single settings or, in JSON, whole sections. Their names start with
a common prefix and are compared without regard to case; underscores in pairs separate the name
of a section from those of its fields. Settings given directly take precedence.
-/

namespace FlatTables
namespace Settings

/-- Environment variables in their order. -/
abbrev Environment := List (String × String)

/-- What the names of all variables start with. -/
def namesStart : String := "query_engine_"

/-- The lower-case form of a name. -/
def lowerName (name : String) : String :=
  String.ofList (name.toList.map Char.toLower)

/-- The variables under their lower-case names. Of variables whose names differ in case only, the
last one counts. -/
def lowerNamed (environment : Environment) : List (String × Document) :=
  environment.foldl
    (fun fields (name, value) => Document.setField fields (lowerName name) (.text value)) []

/-- Cut a text at pairs of underscores. -/
def splitPairs (current : List Char) : List Char → List (List Char)
  | [] => [current]
  | '_' :: '_' :: rest => current :: splitPairs [] rest
  | c :: rest => splitPairs (current ++ [c]) rest

/-- The path of field names that a variable sets inside a section, if it does. -/
def fieldPath? (sectionName name : String) : Option (List String) :=
  let opening := (namesStart ++ sectionName ++ "__").toList
  if opening.isPrefixOf name.toList then
    some ((splitPairs [] (name.toList.drop opening.length)).map String.ofList)
  else none

/-- Put a value at a path of field names. Below anything but an object nothing is put. -/
def putAt (value : Document) : List String → Document → Document
  | [], document => document
  | [name], .object fields => .object (Document.setField fields name value)
  | name :: rest, .object fields =>
      let inner := (fields.lookup name).getD (.object [])
      .object (Document.setField fields name (putAt value rest inner))
  | _, document => document

/-- The fields of a section that have variables of their own. -/
def exploded (settings : List (String × Document)) (sectionName : String) : Document :=
  settings.foldl
    (fun document (name, value) =>
      match fieldPath? sectionName name with
      | some path => putAt value path document
      | none => document)
    (.object [])

/-- The same fields under lower-case names. -/
def lowerFields (fields : List (String × Document)) : List (String × Document) :=
  fields.foldl (fun lowered (name, value) => Document.setField lowered (lowerName name) value) []

/-- Why settings cannot be loaded: a section is not given in JSON, or values cannot be used. -/
inductive LoadFault
  | unreadable (sectionName : String)
  | invalid (problems : List Problem)
  deriving DecidableEq, Repr

/-- The class of a load fault. -/
def LoadFault.label : LoadFault → String
  | .unreadable _ => "SettingsError"
  | .invalid _ => "ValidationError"

/-- The wording of a load fault. -/
def LoadFault.message : LoadFault → String
  | .unreadable sectionName =>
      "error parsing value for field \"" ++ sectionName ++ "\" from source \"EnvSettingsSource\""
  | .invalid problems => String.intercalate "; " (problems.map (·.cause.message))

/-- What the environment says about a section. -/
def ofVariables (settings : List (String × Document)) (sectionName : String) :
    Except LoadFault (Option Document) :=
  let parts := exploded settings sectionName
  match settings.lookup (namesStart ++ sectionName) with
  | some (.text whole) =>
      match Document.ofJson? whole with
      | none => .error (.unreadable sectionName)
      | some .null => .ok none
      | some (.object fields) =>
          match (Document.object fields).overlay parts with
          | .object fields => .ok (some (.object (lowerFields fields)))
          | document => .ok (some document)
      | some document => .ok (some document)
  | _ =>
      match parts with
      | .object [] => .ok none
      | parts => .ok (some parts)

/-- What the environment says about some sections. -/
def sectionsOf (settings : List (String × Document)) :
    List String → Except LoadFault (List (String × Document))
  | [] => .ok []
  | name :: rest => do
      let document? ← ofVariables settings name
      let others ← sectionsOf settings rest
      return (document?.map (name, ·)).toList ++ others

/-- Load settings from the environment and from fields given directly. -/
def load (environment : Environment) (given : Document) : Except LoadFault Settings := do
  let fields ← sectionsOf (lowerNamed environment) sectionNames
  match ofDocument ((Document.object fields).overlay given) with
  | .valid settings => .ok settings
  | .invalid problems => .error (.invalid problems)

end Settings
end FlatTables
