import FlatTables.Decimal.Binary64

/-!
# Documents

Values whose kind is known only when they are looked at: settings, request bodies, and scalars
handed over before they are matched with an attribute type.
-/

namespace FlatTables

open Decimal (Binary64)

/-- A dynamically typed value. The fields of an object keep their order. -/
inductive Document
  | null
  | flag (value : Bool)
  | integer (value : Int)
  | real (value : Binary64)
  | text (value : String)
  | list (items : List Document)
  | object (fields : List (String × Document))

namespace Document

/-- The name of a document's kind, as messages give it. -/
def kind : Document → String
  | .null => "NoneType"
  | .flag _ => "bool"
  | .integer _ => "int"
  | .real _ => "float"
  | .text _ => "str"
  | .list _ => "list"
  | .object _ => "dict"

/-- The value of a field of an object. -/
def field? (name : String) : Document → Option Document
  | .object fields => fields.lookup name
  | _ => none

/-- Set a field in a list of fields. A field that is already there keeps its place. -/
def setField (fields : List (String × Document)) (name : String) (value : Document) :
    List (String × Document) :=
  if fields.any (·.1 = name) then
    fields.map fun field => if field.1 = name then (name, value) else field
  else fields ++ [(name, value)]

mutual

/-- Lay a document over another one. Fields of objects are laid over each other one by one;
everything else replaces what is below it. -/
def overlay (below above : Document) : Document :=
  match below, above with
  | .object fields, .object others => .object (overlayFields fields others)
  | _, above => above
termination_by sizeOf above

/-- Lay fields over other fields. -/
def overlayFields (below : List (String × Document)) :
    List (String × Document) → List (String × Document)
  | [] => below
  | (name, value) :: rest =>
      let merged :=
        match below.lookup name with
        | some old => overlay old value
        | none => value
      overlayFields (setField below name merged) rest
termination_by fields => sizeOf fields

end

end Document
end FlatTables
