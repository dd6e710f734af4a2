import QueryConsole.Text.CodePoint
import QueryConsole.Text.PrintableTable
/-!
# Printable code points

A code point is printable unless Unicode classes it as a control, a
format, private use or unassigned code point, a surrogate, or a separator
other than the space.
-/

namespace QueryConsole.CodePoint

/-- Whether the code point has a shape of its own on the page. -/
def isPrintable (p : CodePoint) : Bool :=
  !(PrintableTable.hidden.any fun r => r.1 ≤ p.value && p.value ≤ r.2)

end QueryConsole.CodePoint
