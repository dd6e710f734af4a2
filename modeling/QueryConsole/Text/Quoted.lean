import QueryConsole.Number.Digits
import QueryConsole.Text.Printable
/-!
# Quoted texts

A text as messages quote it: between apostrophes, or between quotation
marks if it holds an apostrophe and no quotation mark, with the mark in
use, backslashes and code points that are not printable escaped.
-/

namespace QueryConsole.Text

/-- The escape of a code point by its number, as short as the number
allows. -/
def escapeNumber (n : Nat) : Text :=
  if n < 0x100 then ofString "\\x" ++ hex 2 n
  else if n < 0x10000 then ofString "\\u" ++ hex 4 n
  else ofString "\\U" ++ hex 8 n

/-- The mark to quote a text with. -/
def quoteMark (t : Text) : Char :=
  if t.contains (.scalar '\'') && !t.contains (.scalar '"') then '"' else '\''

/-- One code point within quotes; `keep` tells which code points beyond
ASCII stand as they are. -/
def quoteCodePoint (keep : CodePoint → Bool) (mark : Char) (p : CodePoint) : Text :=
  if p = .scalar mark || p = .scalar '\\' then [.scalar '\\', p]
  else if p = .scalar '\t' then ofString "\\t"
  else if p = .scalar '\n' then ofString "\\n"
  else if p = .scalar '\r' then ofString "\\r"
  else if p.value < 0x20 || p.value = 0x7F then escapeNumber p.value
  else if p.value < 0x7F then [p]
  else if keep p then [p]
  else escapeNumber p.value

/-- A text between quotes, printable code points standing as they are. -/
def quoted (t : Text) : Text :=
  let mark := quoteMark t
  ofChar mark ++ t.flatMap (quoteCodePoint CodePoint.isPrintable mark) ++ ofChar mark

/-- A text between quotes, everything beyond ASCII escaped. -/
def quotedAscii (t : Text) : Text :=
  let mark := quoteMark t
  ofChar mark ++ t.flatMap (quoteCodePoint (fun _ => false) mark) ++ ofChar mark

end QueryConsole.Text
