import QueryConsole.Text.JoiningTable
import QueryConsole.Text.Table
/-!
# Joining of letters

How a letter of a cursive script joins to its neighbours.
-/

namespace QueryConsole

/-- To which sides a letter joins; it may also let its neighbours join
through it. -/
inductive Joining
  | none
  | left
  | right
  | dual
  | transparent
  deriving DecidableEq, Repr

namespace Joining

/-- The code points of each kind but the first, which all others are of. -/
def tables : List (Joining × Table) :=
  [ (left, .read JoiningTable.left),
    (right, .read JoiningTable.right),
    (dual, .read JoiningTable.dual),
    (transparent, .read JoiningTable.transparent) ]

end Joining

/-- How a code point joins to its neighbours. -/
def CodePoint.joining (p : CodePoint) : Joining :=
  match Joining.tables.find? fun j => j.2.contains p.value with
  | some j => j.1
  | .none => .none

end QueryConsole
