import QueryConsole.Number.Binary64
/-!
# Decimal forms of double precision numbers

`Decimal.shortest` chooses the digits of a number: the fewest that read
back as the number, and among as few the nearest to it. `Decimal.places`
and `Decimal.significant` round to a given number of digits. `Layout`
says how a written number is laid out; `Binary64.text` is the form in
which numbers are shown and `Layout.plain` its rule.
-/

namespace QueryConsole

/-- The digits of a positive number: `digits[0].digits[1]… * 10 ^ exponent`. -/
structure Decimal where
  digits : List Digit
  exponent : Int
  deriving DecidableEq, Repr

namespace Decimal

/-- The largest exponent whose power of ten is at most the positive
quotient `n / d`. -/
def magnitude (n d : Nat) : Int :=
  if d ≤ n then (Digits.ofNat (n / d)).length - 1
  else
    let e := (Digits.ofNat (d / n)).length
    if d ≤ n * 10 ^ (e - 1) then -(e - 1 : Nat) else -(e : Int)

/-- The quotient `n / d` over `10 ^ e`, as a quotient. -/
def scale (n d : Nat) (e : Int) : Nat × Nat :=
  if 0 ≤ e then (n, d * 10 ^ e.toNat) else (n * 10 ^ (-e).toNat, d)

/-- The number nearest to `coefficient * 10 ^ e`. -/
def read (coefficient : Nat) (e : Int) : Binary64 :=
  Binary64.ofDecimal false coefficient e

/-- The multiple of `10 ^ e` that reads back as `quanta`, if one does: of
the two neighbours of the number the nearer one, the even one when they
are equally near. -/
def onGrid? (quanta : Nat) (e : Int) : Option Nat :=
  let (n, d) := scale quanta Binary64.quantaOfOne e
  let below := n / d
  let nearer := Binary64.divideToEven n d
  let farther := if nearer = below then below + 1 else below
  if read nearer e = .finite false quanta then some nearer
  else if read farther e = .finite false quanta then some farther
  else none

/-- The digits of a natural without the zeros at its end. -/
def trimmed (coefficient : Nat) : List Digit :=
  ((Digits.ofNat coefficient).reverse.dropWhile (· == 0)).reverse

/-- The decimal `coefficient * 10 ^ e`. -/
def ofCoefficient (coefficient : Nat) (e : Int) : Decimal :=
  ⟨trimmed coefficient, e + (Digits.ofNat coefficient).length - 1⟩

/-- All digits of a number. -/
def exact (quanta : Nat) : Decimal :=
  ofCoefficient (quanta * 5 ^ 1074) (-1074)

/-- The first grid, from the coarsest on, with a point that reads back. -/
def firstGrid (quanta : Nat) (magnitude : Int) : List Nat → Decimal
  | [] => exact quanta
  | count :: more =>
    match onGrid? quanta (magnitude - count) with
    | some coefficient => ofCoefficient coefficient (magnitude - count)
    | none => firstGrid quanta magnitude more

/-- **The fewest digits that read back as the positive number.** Seventeen
always do. -/
def shortest (quanta : Nat) : Decimal :=
  firstGrid quanta (magnitude quanta Binary64.quantaOfOne) (List.range 17)

/-- A number in units of `10 ^ (-places)`, rounded to a whole number. -/
def places (quanta places : Nat) : Nat :=
  Binary64.divideToEven (quanta * 10 ^ places) Binary64.quantaOfOne

/-- A positive number rounded to `count` significant digits, zeros kept. -/
def significant (quanta count : Nat) : Decimal :=
  let e := magnitude quanta Binary64.quantaOfOne
  let (n, d) := scale quanta Binary64.quantaOfOne (e - (count - 1 : Nat))
  let rounded := Binary64.divideToEven n d
  if rounded < 10 ^ count then ⟨Digits.ofNat rounded, e⟩
  else ⟨Digits.ofNat (rounded / 10), e + 1⟩

end Decimal

/-- How a number with given digits is laid out. -/
structure Layout where
  /-- Exponents below this one are written out. -/
  leastPositional : Int
  /-- Exponents from this one on are written out. -/
  leastScientific : Int
  /-- The least number of digits after the point of a positional number. -/
  leastPlaces : Nat
  /-- The mark before an exponent. -/
  exponentMark : Char
  /-- The least number of digits of an exponent. -/
  exponentWidth : Nat

namespace Layout

/-- Numbers are positional from `0.0001` up to below `10 ^ 16`, with at
least one digit after the point; an exponent is signed and has at least
two digits. -/
def plain : Layout := ⟨-4, 16, 1, 'e', 2⟩

/-- An exponent: its mark, its sign and at least so many digits. -/
def exponent (mark : Char) (width : Nat) (e : Int) : Text :=
  let ds := Digits.ofNat e.natAbs
  Text.ofChar mark ++ Text.ofChar (if e < 0 then '-' else '+') ++
    (List.replicate (width - ds.length) 0 ++ ds).map Digits.codePoint

/-- The digits before and after the point of a positional number. -/
def positional (digits : List Digit) (e : Int) : List Digit × List Digit :=
  if e < 0 then ([0], List.replicate ((-e).toNat - 1) 0 ++ digits)
  else
    let before := e.toNat + 1
    (digits.take before ++ List.replicate (before - digits.length) 0, digits.drop before)

/-- The whole and the fractional digits, a point between them unless there
are none of the latter. -/
def withPoint (whole fraction : List Digit) : Text :=
  whole.map Digits.codePoint ++
    if fraction.isEmpty then [] else Text.ofChar '.' ++ fraction.map Digits.codePoint

/-- A decimal written in a layout. -/
def write (layout : Layout) (d : Decimal) : Text :=
  if layout.leastPositional ≤ d.exponent ∧ d.exponent < layout.leastScientific then
    let (whole, fraction) := positional d.digits d.exponent
    withPoint whole (fraction ++ List.replicate (layout.leastPlaces - fraction.length) 0)
  else
    withPoint (d.digits.take 1) (d.digits.drop 1) ++
      exponent layout.exponentMark layout.exponentWidth d.exponent

end Layout

namespace Binary64

/-- A finite magnitude as it is shown. -/
def magnitudeText (quanta : Nat) : Text :=
  if quanta = 0 then "0.0" else Layout.plain.write (Decimal.shortest quanta)

/-- A minus sign for a negative number. -/
def signText (negative : Bool) : Text :=
  if negative then "-" else ""

/-- A number as it is shown. -/
def text : Binary64 → Text
  | finite negative quanta => signText negative ++ magnitudeText quanta
  | infinite negative => signText negative ++ "inf"
  | nan => "nan"

end Binary64

end QueryConsole
