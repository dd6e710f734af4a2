import QueryConsole.Text.CodePoint
/-!
# Punycode

The ASCII form of a label that is not ASCII: its ASCII characters first,
then, as numbers of variable length, where the others are inserted.
-/

namespace QueryConsole.Web.Punycode

/-- The number of digits. -/
def base : Nat := 36

/-- How far a digit is from the bias, within bounds. -/
def threshold (k bias : Nat) : Nat :=
  if k ≤ bias + 1 then 1 else if bias + 26 ≤ k then 26 else k - bias

/-- The bias after a number. -/
def adapt (delta count : Nat) (first : Bool) : Nat :=
  let delta := if first then delta / 700 else delta / 2
  go 0 (delta + delta / count) (delta + 1)
where
  /-- Divides until the number is small; `fuel` bounds the divisions. -/
  go (k delta : Nat) : Nat → Nat
    | 0 => k
    | fuel + 1 =>
      if 455 < delta then go (k + base) (delta / 35) fuel
      else k + 36 * delta / (delta + 38)

/-- The character of a digit. -/
def digit (n : Nat) : CodePoint :=
  CodePoint.ofNat (if n < 26 then 97 + n else 22 + n)

/-- The value of the character of a digit. -/
def digitValue? (p : CodePoint) : Option Nat :=
  let n := p.value
  if 48 ≤ n ∧ n ≤ 57 then some (n - 22)
  else if 97 ≤ n ∧ n ≤ 122 then some (n - 97)
  else if 65 ≤ n ∧ n ≤ 90 then some (n - 65)
  else none

/-- The digits of a number; `fuel` bounds them. -/
def writeNumber (bias k : Nat) : Nat → Nat → Text
  | 0, _ => []
  | fuel + 1, n =>
    let t := threshold k bias
    if n < t then [digit n]
    else digit (t + (n - t) % (base - t)) ::
      writeNumber bias (k + base) fuel ((n - t) / (base - t))

/-- Where an encoding stands. -/
structure Progress where
  delta : Nat
  bias : Nat
  handled : Nat
  output : Text

/-- Goes over the code points of a label, writing a number where `n`
stands. -/
def encodeRound (basic n : Nat) (label : Text) (p : Progress) : Progress :=
  label.foldl (fun p c =>
    if c.value < n then { p with delta := p.delta + 1 }
    else if c.value = n then
      { delta := 0
        bias := adapt p.delta (p.handled + 1) (p.handled == basic)
        handled := p.handled + 1
        output := p.output ++ writeNumber p.bias base (p.delta + 1) p.delta }
    else p) p

/-- Writes the code points from `n` on, the least first. -/
def encodeFrom (basic : Nat) (label : Text) : Nat → Nat → Progress → Text
  | 0, _, p => p.output
  | fuel + 1, n, p =>
    match ((label.map CodePoint.value).filter (n ≤ ·)).min? with
    | none => p.output
    | some m =>
      let p := encodeRound basic m label { p with delta := p.delta + (m - n) * (p.handled + 1) }
      encodeFrom basic label fuel (m + 1) { p with delta := p.delta + 1 }

/-- The ASCII form of a label. -/
def encode (label : Text) : Text :=
  let ascii := label.filter fun p => p.value < 128
  let start := if ascii.isEmpty then [] else ascii ++ Text.ofChar '-'
  encodeFrom ascii.length label label.length 128 ⟨0, 72, ascii.length, start⟩

/-- Reads a number: what it adds, and the rest. -/
def readNumber (bias : Nat) : Nat → Nat → Nat → Text → Option (Nat × Text)
  | _, _, _, [] => none
  | k, weight, soFar, p :: rest =>
    match digitValue? p with
    | none => none
    | some d =>
      let t := threshold k bias
      let soFar := soFar + d * weight
      if d < t then some (soFar, rest)
      else readNumber bias (k + base) (weight * (base - t)) soFar rest

/-- Inserts code points into a label, one for each number. -/
def decodeFrom (bias n i : Nat) (label : Text) : Nat → Text → Option Text
  | _, [] => some label
  | 0, _ => none
  | fuel + 1, t =>
    match readNumber bias base 1 0 t with
    | none => none
    | some (delta, rest) =>
      let first := i == 0
      let i := i + delta
      let count := label.length + 1
      let n := n + i / count
      match CodePoint.ofNat? n with
      | none => none
      | some p =>
        let i := i % count
        decodeFrom (adapt delta count first) n (i + 1) (label.take i ++ p :: label.drop i) fuel rest

/-- The label of an ASCII form. What stands before the last hyphen are the
ASCII characters of the label; a hyphen with nothing before it is no such
end. -/
def decode (t : Text) : Option Text :=
  let hyphen := CodePoint.scalar '-'
  let tail := (t.reverse.takeWhile (· != hyphen)).reverse
  let head := t.take (t.length - tail.length - 1)
  let coded := if head.isEmpty then t else tail
  decodeFrom 72 128 0 head coded.length coded

end QueryConsole.Web.Punycode
