import QueryConsole.Number.Digits
/-!
# Double precision numbers

A `Binary64` is a sign and a magnitude, which is counted in quanta: the
least positive number is one quantum, and every finite magnitude is a
whole number of them. `ofRatio` is the number nearest to a quotient of
naturals, a quotient halfway between two going to the even one, and
`isMagnitude` tells which counts of quanta are magnitudes. All arithmetic
is done on naturals, so that nothing is lost before the one rounding.
-/

namespace QueryConsole

/-- A double precision number. `quanta` counts multiples of `2 ^ (-1074)`;
there is one value for all that is not a number. -/
inductive Binary64
  | finite (negative : Bool) (quanta : Nat)
  | infinite (negative : Bool)
  | nan
  deriving DecidableEq, Repr, Inhabited

namespace Binary64

/-- The number of quanta in one. -/
def quantaOfOne : Nat := 2 ^ 1074

/-- The number of quanta in the least power of two that is no magnitude. -/
def quantaOfOverflow : Nat := 2 ^ 2098

/-- A magnitude has at most 53 significant bits and lies below the
overflow. -/
def isMagnitude (quanta : Nat) : Bool :=
  quanta < quantaOfOverflow && quanta % 2 ^ (quanta.log2 - 52) = 0

/-- The quotient of two naturals, rounded to the nearest natural, halves
to the even one. -/
def divideToEven (n d : Nat) : Nat :=
  let q := n / d
  let r := n % d
  if 2 * r < d then q
  else if d < 2 * r then q + 1
  else if q % 2 = 0 then q
  else q + 1

/-- The magnitude nearest to a quotient, in quanta; it may be too large. -/
def nearestQuanta (n d : Nat) : Nat :=
  let scaled := n * quantaOfOne
  let whole := scaled / d
  let unit := 2 ^ (whole.log2 - 52)
  divideToEven scaled (d * unit) * unit

/-- The number nearest to a quotient, with a given sign. -/
def ofRatio (negative : Bool) (n d : Nat) : Binary64 :=
  let quanta := nearestQuanta n d
  if quanta < quantaOfOverflow then finite negative quanta else infinite negative

/-- The number nearest to an integer. -/
def ofInt (i : Int) : Binary64 :=
  ofRatio (i < 0) i.natAbs 1

/-- The number nearest to `coefficient * 10 ^ exponent`. Beyond four hundred
places before or after the point no digit matters. -/
def ofDecimal (negative : Bool) (coefficient : Nat) (exponent : Int) : Binary64 :=
  let places := exponent + (Digits.ofNat coefficient).length
  if coefficient = 0 then finite negative 0
  else if 400 < places then infinite negative
  else if places < -400 then finite negative 0
  else if 0 ≤ exponent then ofRatio negative (coefficient * 10 ^ exponent.toNat) 1
  else ofRatio negative coefficient (10 ^ (-exponent).toNat)

/-- Whether the first number is less than the second; what is not a number
is neither. -/
def lt : Binary64 → Binary64 → Bool
  | nan, _ => false
  | _, nan => false
  | infinite a, infinite b => a && !b
  | infinite a, finite _ _ => a
  | finite _ _, infinite b => !b
  | finite a m, finite b n => ordinal a m < ordinal b n
where
  /-- Quanta with their sign. -/
  ordinal (negative : Bool) (quanta : Nat) : Int :=
    if negative then -(quanta : Int) else quanta

/-- Whether the first number is at most the second. -/
def le : Binary64 → Binary64 → Bool
  | nan, _ => false
  | _, nan => false
  | x, y => !lt y x

/-- Whether a number is a whole one. -/
def isIntegral : Binary64 → Bool
  | finite _ quanta => quanta % quantaOfOne = 0
  | _ => false

/-- One. -/
def one : Binary64 := finite false quantaOfOne

/-- Zero. -/
def zero : Binary64 := finite false 0

/-- A number times a hundred, rounded. -/
def timesHundred : Binary64 → Binary64
  | finite negative quanta => ofRatio negative (quanta * 100) quantaOfOne
  | x => x

end Binary64

end QueryConsole
