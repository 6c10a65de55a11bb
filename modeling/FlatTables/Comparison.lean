import FlatTables.Value

/-!
# Comparison operators

The six operators of a condition, and what they say of two values. Numbers compare exactly,
whatever their types; a number that is not ordered to another is only unequal to it. Texts
compare by code points. A text and a number are unequal and have no order.
-/

namespace FlatTables

open Decimal (Binary64)

/-- A comparison operator. -/
inductive ComparisonOp
  | equal
  | notEqual
  | less
  | greater
  | atMost
  | atLeast
  deriving DecidableEq, Repr

namespace ComparisonOp

/-- All operators. -/
def all : List ComparisonOp :=
  [.equal, .notEqual, .less, .greater, .atMost, .atLeast]

/-- The normal spelling of an operator. -/
def symbol : ComparisonOp → String
  | .equal => "="
  | .notEqual => "!="
  | .less => "<"
  | .greater => ">"
  | .atMost => "<="
  | .atLeast => ">="

/-- The two-letter name of an operator. -/
def name : ComparisonOp → String
  | .equal => "EQ"
  | .notEqual => "NE"
  | .less => "LT"
  | .greater => "GT"
  | .atMost => "LE"
  | .atLeast => "GE"

/-- The operator with a given spelling; `<>` is a second spelling of `!=`. -/
def ofSymbol? (symbol : String) : Option ComparisonOp :=
  if symbol = "<>" then some .notEqual else all.find? (·.symbol = symbol)

/-- The operator tests equality, the only kind of comparison texts support. -/
def isEquality : ComparisonOp → Bool
  | .equal | .notEqual => true
  | _ => false

/-- The operator that holds exactly where this one does not, among ordered values. -/
def complement : ComparisonOp → ComparisonOp
  | .equal => .notEqual
  | .notEqual => .equal
  | .less => .atLeast
  | .atLeast => .less
  | .greater => .atMost
  | .atMost => .greater

/-- The operator holds of two values in a given order. -/
def holdsOf : ComparisonOp → Ordering → Bool
  | .equal, order => order.isEq
  | .notEqual, order => order.isNe
  | .less, order => order.isLT
  | .greater, order => order.isGT
  | .atMost, order => order.isLE
  | .atLeast, order => order.isGE

/-- The operator holds of two values that may have no order. -/
def holds (op : ComparisonOp) : Option Ordering → Bool
  | some order => op.holdsOf order
  | none => op = .notEqual

end ComparisonOp

/-- The order of two texts by code points. -/
def compareTexts (left right : String) : Ordering :=
  compareOfLessAndEq left right

/-- How two values relate. -/
inductive Relation
  | ordered (order : Option Ordering)
  | unrelated

/-- How two values relate: numbers and numbers, and texts and texts, are comparable. -/
def Value.relation : Value → Value → Relation
  | .integer left, .integer right => .ordered (some (compare left right))
  | .text left, .text right => .ordered (some (compareTexts left right))
  | .real left, .real right => .ordered (left.compare? right)
  | .real left, .integer right => .ordered (left.compareInt? right)
  | .integer left, .real right => .ordered ((right.compareInt? left).map Ordering.swap)
  | .text _, _ => .unrelated
  | _, .text _ => .unrelated

/-- An order asked for between a text and a number. -/
structure UnorderedFault where
  op : ComparisonOp
  left : AttributeType
  right : AttributeType
  deriving DecidableEq, Repr

/-- The wording of an unordered comparison. -/
def UnorderedFault.message (fault : UnorderedFault) : String :=
  "'" ++ fault.op.symbol ++ "' not supported between instances of '"
    ++ ScalarFault.expectedKind fault.left ++ "' and '"
    ++ ScalarFault.expectedKind fault.right ++ "'"

/-- Apply an operator to two values of any types. -/
def ComparisonOp.apply (op : ComparisonOp) (left right : Value) : Except UnorderedFault Bool :=
  match left.relation right with
  | .ordered order => .ok (op.holds order)
  | .unrelated =>
      if op.isEquality then .ok (op = .notEqual) else .error ⟨op, left.type, right.type⟩

end FlatTables
