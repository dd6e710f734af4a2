import QueryConsole.Text.DirectionTable
import QueryConsole.Text.Table
/-!
# Directions of writing

The class of a code point by which the direction of a text is found.
-/

namespace QueryConsole

/-- How a code point is written: letters to the right or to the left,
numbers, what belongs to numbers, and what has no direction of its own. -/
inductive Direction
  | left
  | right
  | arabic
  | number
  | arabicNumber
  | sign
  | separator
  | unit
  | neutral
  | boundary
  | mark
  | blank
  deriving DecidableEq, Repr

namespace Direction

/-- The code points of each direction but the first, which all others
have. -/
def tables : List (Direction × Table) :=
  [ (mark, .read DirectionTable.mark),
    (neutral, .read DirectionTable.neutral),
    (right, .read DirectionTable.right),
    (arabic, .read DirectionTable.arabic),
    (number, .read DirectionTable.number),
    (arabicNumber, .read DirectionTable.arabicNumber),
    (sign, .read DirectionTable.sign),
    (separator, .read DirectionTable.separator),
    (unit, .read DirectionTable.unit),
    (boundary, .read DirectionTable.boundary),
    (blank, .read DirectionTable.blank) ]

end Direction

/-- The direction of a code point; that of most is from left to right. -/
def CodePoint.direction (p : CodePoint) : Direction :=
  match Direction.tables.find? fun d => d.2.contains p.value with
  | some d => d.1
  | none => .left

end QueryConsole
