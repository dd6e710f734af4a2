import QueryConsole.Text.MarkTable
import QueryConsole.Text.Table
/-!
# Marks

The code points that belong to the letter before them.
-/

namespace QueryConsole

namespace MarkTable

/-- The marks as a table. -/
def table : Table := .read marks

end MarkTable

/-- Whether a code point is a mark of any kind. -/
def CodePoint.isMark (p : CodePoint) : Bool :=
  MarkTable.table.contains p.value

end QueryConsole
