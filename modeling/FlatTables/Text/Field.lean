/-!
# Fields

A text is cut at every occurrence of a separator. There is always one field more than there are
separators, so the empty text is one empty field.
-/

namespace FlatTables
namespace Text

/-- The fields of a text between its separators. -/
def splitFields (separator : Char) : List Char → List (List Char)
  | [] => [[]]
  | c :: rest =>
      if c = separator then [] :: splitFields separator rest
      else
        match splitFields separator rest with
        | [] => [[c]]
        | field :: fields => (c :: field) :: fields

end Text
end FlatTables
