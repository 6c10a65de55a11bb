/-!
# Ranges of code points

A class of characters is kept as ascending, disjoint ranges of code points. Membership walks the
ranges and stops at the first one that starts above the character.
-/

namespace FlatTables
namespace Text

/-- Ascending, disjoint ranges of code points, both ends included. -/
abbrev CodeRanges := List (Nat × Nat)

namespace CodeRanges

/-- The code point lies in one of the ranges. -/
def containsCode : CodeRanges → Nat → Bool
  | [], _ => false
  | (first, last) :: rest, code =>
      if code < first then false else code ≤ last || containsCode rest code

/-- The character lies in one of the ranges. -/
def contains (ranges : CodeRanges) (c : Char) : Bool :=
  ranges.containsCode c.toNat

end CodeRanges

end Text
end FlatTables
