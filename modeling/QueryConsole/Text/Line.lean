import QueryConsole.Text.CodePoint
/-!
# Lines

The lines of a text, where every code point that Unicode or ASCII has for
the end of a line, a page or a record ends one. What ends the last line
begins no further one, so a text that is nothing has no lines.
-/

namespace QueryConsole

/-- Whether a code point ends a line: line feed, the other breaks of ASCII
and its separators of records, next line, and the two separators of
Unicode. -/
def CodePoint.isLineEnd (p : CodePoint) : Bool :=
  let n := p.value
  (0x0A ≤ n && n ≤ 0x0D) || (0x1C ≤ n && n ≤ 0x1E) || n = 0x85 || n = 0x2028 || n = 0x2029

namespace Text

/-- The lines of a text. A carriage return and a line feed end one line
together. -/
def lines : Text → List Text
  | [] => []
  | [p] => if p.isLineEnd then [[]] else [[p]]
  | p :: q :: t =>
    if p = .scalar '\r' ∧ q = .scalar '\n' then [] :: lines t
    else if p.isLineEnd then [] :: lines (q :: t)
    else
      match lines (q :: t) with
      | [] => [[p]]
      | line :: rest => (p :: line) :: rest

/-- The last line of a text; nothing if it has none. -/
def lastLine (t : Text) : Text :=
  t.lines.getLastD []

end Text

end QueryConsole
