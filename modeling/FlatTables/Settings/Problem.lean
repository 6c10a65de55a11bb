import FlatTables.Text.Quoted

/-!
# Problems with settings

Why given settings cannot be used. A problem has a place, which is a path of field names, and a
cause with a kind and a wording.
-/

namespace FlatTables
namespace Settings

/-- Why the value of a setting cannot be used. -/
inductive Cause
  | notText
  | notPath
  | noInitialDot
  | notInteger
  | unreadableInteger
  | oversizedInteger
  | fractional
  | notFinite
  | belowLeast (least : Int)
  | aboveGreatest (greatest : Int)
  | notFlag
  | unreadableFlag
  | noneOf (choices : List String)
  | notSection (title : String)
  | unknownField
  deriving DecidableEq, Repr

namespace Cause

/-- The kind of a cause. -/
def kind : Cause → String
  | .notText => "string_type"
  | .notPath => "path_type"
  | .noInitialDot => "value_error"
  | .notInteger => "int_type"
  | .unreadableInteger => "int_parsing"
  | .oversizedInteger => "int_parsing_size"
  | .fractional => "int_from_float"
  | .notFinite => "finite_number"
  | .belowLeast _ => "greater_than_equal"
  | .aboveGreatest _ => "less_than_equal"
  | .notFlag => "bool_type"
  | .unreadableFlag => "bool_parsing"
  | .noneOf _ => "literal_error"
  | .notSection _ => "model_type"
  | .unknownField => "extra_forbidden"

/-- Texts in quotes, separated by commas and a final "or". -/
def alternatives : List String → String
  | [] => ""
  | [last] => Text.quoted last
  | [first, last] => Text.quoted first ++ " or " ++ Text.quoted last
  | first :: rest => Text.quoted first ++ ", " ++ alternatives rest

/-- The wording of a cause. -/
def message : Cause → String
  | .notText => "Input should be a valid string"
  | .notPath => "Input is not a valid path"
  | .noInitialDot => "Value error, table_suffix must start with '.'"
  | .notInteger => "Input should be a valid integer"
  | .unreadableInteger =>
      "Input should be a valid integer, unable to parse string as an integer"
  | .oversizedInteger =>
      "Unable to parse input string as an integer, exceeded maximum size"
  | .fractional => "Input should be a valid integer, got a number with a fractional part"
  | .notFinite => "Input should be a finite number"
  | .belowLeast least => "Input should be greater than or equal to " ++ toString least
  | .aboveGreatest greatest => "Input should be less than or equal to " ++ toString greatest
  | .notFlag => "Input should be a valid boolean"
  | .unreadableFlag => "Input should be a valid boolean, unable to interpret input"
  | .noneOf choices => "Input should be " ++ alternatives choices
  | .notSection title => "Input should be a valid dictionary or instance of " ++ title
  | .unknownField => "Extra inputs are not permitted"

end Cause

/-- A cause and the place of the setting it is about. -/
structure Problem where
  place : List String
  cause : Cause
  deriving DecidableEq, Repr

namespace Problem

/-- The place of a problem with its names joined by dots. -/
def placeText (problem : Problem) : String :=
  String.intercalate "." problem.place

/-- A problem inside a field of a given name. -/
def within (name : String) (problem : Problem) : Problem :=
  { problem with place := name :: problem.place }

end Problem
end Settings
end FlatTables
