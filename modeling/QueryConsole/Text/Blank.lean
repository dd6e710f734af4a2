import QueryConsole.Text.CodePoint
/-!
# Blank code points and trimming

Two classes of blank code points. `isBlank` is the wider one: the Unicode
white space and the four separators `U+001C` to `U+001F`, by which typed
and configured texts are stripped. `isWhiteSpace` is the Unicode property
alone, by which numerals are trimmed.
-/

namespace QueryConsole

namespace CodePoint

/-- The Unicode property of white space. -/
def isWhiteSpace (p : CodePoint) : Bool :=
  let n := p.value
  (9 ≤ n && n ≤ 13) || n = 0x20 || n = 0x85 || n = 0xA0 || n = 0x1680 ||
    (0x2000 ≤ n && n ≤ 0x200A) || n = 0x2028 || n = 0x2029 || n = 0x202F || n = 0x205F ||
    n = 0x3000

/-- White space, or one of the four information separators. -/
def isBlank (p : CodePoint) : Bool :=
  p.isWhiteSpace || (0x1C ≤ p.value && p.value ≤ 0x1F)

end CodePoint

namespace Text

/-- A text without the code points of a class at its end. -/
def trimEnd (drop : CodePoint → Bool) (t : Text) : Text :=
  (t.reverse.dropWhile drop).reverse

/-- A text without the code points of a class at either end. -/
def trim (drop : CodePoint → Bool) (t : Text) : Text :=
  trimEnd drop (t.dropWhile drop)

/-- A text without blanks at either end. -/
def strip (t : Text) : Text :=
  trim CodePoint.isBlank t

end Text

end QueryConsole
