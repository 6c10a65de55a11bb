/-!
# Keywords

The seven reserved words of the query language. Words are compared in upper case; outside ASCII
just two letters have an upper case in ASCII alone, the dotless i and the long s.
-/

namespace FlatTables
namespace Query

/-- A reserved word. -/
inductive Keyword
  | select
  | from
  | where
  | insert
  | into
  | values
  | delete
  deriving DecidableEq, Repr

/-- The upper case of a character, as far as reserved words need it: other characters outside
ASCII have none in ASCII, or several letters that occur in no reserved word. -/
def upperChar (c : Char) : Char :=
  if c = 'ı' then 'I' else if c = 'ſ' then 'S' else c.toUpper

/-- The upper case of a word. -/
def upperWord (word : List Char) : List Char :=
  word.map upperChar

namespace Keyword

/-- All reserved words. -/
def all : List Keyword :=
  [.select, .from, .where, .insert, .into, .values, .delete]

/-- The spelling of a reserved word. -/
def text : Keyword → String
  | .select => "SELECT"
  | .from => "FROM"
  | .where => "WHERE"
  | .insert => "INSERT"
  | .into => "INTO"
  | .values => "VALUES"
  | .delete => "DELETE"

/-- The reserved word a word spells in any case. -/
def ofWord? (word : List Char) : Option Keyword :=
  all.find? fun keyword => keyword.text.toList = upperWord word

end Keyword
end Query
end FlatTables
