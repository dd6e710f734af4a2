import QueryConsole.Number.Binary64
/-!
# Numerals

A `Numeral` is the written form of a number: a sign, digits before and
after the point, and an exponent. The three readers at the end take its
parts from the beginning of a text; a part that is not complete is left
in the text.
-/

namespace QueryConsole

/-- The written form of a number. `fraction` is empty where no digits
follow a point. -/
structure Numeral where
  negative : Bool
  whole : List Digit
  fraction : List Digit
  exponent : Option Int
  deriving DecidableEq, Repr

namespace Numeral

/-- Whether the numeral is that of an integer: no fraction, no exponent. -/
def isInteger (n : Numeral) : Bool :=
  n.fraction.isEmpty && n.exponent.isNone

/-- The integer that the sign and the whole digits make. -/
def toInt (n : Numeral) : Int :=
  if n.negative then -(Digits.toNat n.whole : Int) else Digits.toNat n.whole

/-- The double precision number nearest to the numeral. -/
def toBinary64 (n : Numeral) : Binary64 :=
  Binary64.ofDecimal n.negative (Digits.toNat (n.whole ++ n.fraction))
    (n.exponent.getD 0 - n.fraction.length)

/-- A minus sign, if the text begins with one. -/
def readMinus : Text → Bool × Text
  | .scalar '-' :: t => (true, t)
  | t => (false, t)

/-- A point and the digits after it, if there are any. -/
def readFraction : Text → List Digit × Text
  | .scalar '.' :: t =>
    match Digits.span t with
    | ([], _) => ([], .scalar '.' :: t)
    | (ds, rest) => (ds, rest)
  | t => ([], t)

/-- The sign that may stand before the digits of an exponent. -/
def readSign : Text → Bool × Text
  | .scalar '-' :: t => (true, t)
  | .scalar '+' :: t => (false, t)
  | t => (false, t)

/-- An exponent: its mark, a sign or none, and digits. -/
def readExponent : Text → Option Int × Text
  | [] => (none, [])
  | p :: t =>
    if p = .scalar 'e' ∨ p = .scalar 'E' then
      let (negative, digits) := readSign t
      match Digits.span digits with
      | ([], _) => (none, p :: t)
      | (ds, rest) =>
        (some (if negative then -(Digits.toNat ds : Int) else Digits.toNat ds), rest)
    else (none, p :: t)

end Numeral

end QueryConsole
