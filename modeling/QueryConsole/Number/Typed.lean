import QueryConsole.Number.Numeral
import QueryConsole.Text.Blank
import QueryConsole.Text.Case
/-!
# Typed numbers

Numbers as people type them: blanks around them, a sign, digits with or
without a point, an exponent, the words for infinity and for what is no
number; or digits with single underscores between them.
-/

namespace QueryConsole.Binary64

/-- Digits with a point among them, at its ends, or not at all. -/
def readDigits? (t : Text) : Option (List Digit × List Digit × Text) :=
  let (whole, rest) := Digits.span t
  let (fraction, rest) :=
    match rest with
    | .scalar '.' :: rest => Digits.span rest
    | _ => ([], rest)
  if whole.isEmpty && fraction.isEmpty then none else some (whole, fraction, rest)

/-- A number without a sign. -/
def ofUnsigned? (negative : Bool) (t : Text) : Option Binary64 :=
  let word := t.flatMap CodePoint.lower
  if word = "inf" ∨ word = "infinity" then some (.infinite negative)
  else if word = "nan" then some .nan
  else
    match readDigits? t with
    | none => none
    | some (whole, fraction, rest) =>
      match Numeral.readExponent rest with
      | (exponent, []) => some (Numeral.toBinary64 ⟨negative, whole, fraction, exponent⟩)
      | _ => none

/-- A number with or without a sign. -/
def ofPlain? (t : Text) : Option Binary64 :=
  match t with
  | .scalar '-' :: rest => ofUnsigned? true rest
  | .scalar '+' :: rest => ofUnsigned? false rest
  | _ => ofUnsigned? false t

/-- Whether underscores stand singly and within a text. -/
def hasInnerUnderscores (t : Text) : Bool :=
  let underscore := CodePoint.scalar '_'
  t.contains underscore && t.head? != some underscore && t.getLast? != some underscore &&
    !(t.zip (t.drop 1)).contains (underscore, underscore)

/-- **The number that a text is.** Where there are underscores, blanks
around the number are not passed over. -/
def ofTyped? (t : Text) : Option Binary64 :=
  match ofPlain? (Text.trim CodePoint.isWhiteSpace t) with
  | some x => some x
  | none =>
    if hasInnerUnderscores t then ofPlain? (t.filter (· != .scalar '_')) else none

end QueryConsole.Binary64
