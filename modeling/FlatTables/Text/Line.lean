/-!
# Lines

A text is cut into lines at the characters of a break class, which differs between kinds of
file: data files and scripts break at line feeds and carriage returns, the schema file at every
Unicode line boundary, typed input at line feeds only. A carriage return directly followed by a
line feed is one break wherever carriage returns break.
-/

namespace FlatTables
namespace Text

/-- The text after a break: a line feed directly after a carriage return belongs to the break. -/
def afterBreak (c : Char) (rest : List Char) : List Char :=
  match rest with
  | '\n' :: tail => if c = '\r' then tail else rest
  | _ => rest

theorem length_afterBreak_le (c : Char) (rest : List Char) :
    (afterBreak c rest).length ≤ rest.length := by
  unfold afterBreak
  split
  · split <;> simp
  · exact Nat.le_refl _

/-- The lines of a text without their breaks. A break at the very end does not open a further
line. -/
def splitLines (isBreak : Char → Bool) : List Char → List (List Char)
  | [] => []
  | c :: rest =>
      if isBreak c then
        [] :: splitLines isBreak (afterBreak c rest)
      else
        match splitLines isBreak rest with
        | [] => [[c]]
        | line :: lines => (c :: line) :: lines
termination_by s => s.length
decreasing_by
  · exact Nat.lt_succ_of_le (length_afterBreak_le c rest)
  · exact Nat.lt_succ_self _

/-- Breaks of data files and scripts. -/
def isNewline (c : Char) : Bool :=
  c == '\n' || c == '\r'

/-- Breaks of typed input. -/
def isLineFeed (c : Char) : Bool :=
  c == '\n'

/-- Every Unicode line boundary: the breaks of the schema file. -/
def isLineBoundary (c : Char) : Bool :=
  (0xA ≤ c.toNat && c.toNat ≤ 0xD) || (0x1C ≤ c.toNat && c.toNat ≤ 0x1E) || c.toNat == 0x85 ||
    c.toNat == 0x2028 || c.toNat == 0x2029

/-- The lines of a data file or script. -/
def lines (s : String) : List String :=
  (splitLines isNewline s.toList).map String.ofList

end Text
end FlatTables
