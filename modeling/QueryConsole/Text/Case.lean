import QueryConsole.Text.CodePoint
import QueryConsole.Text.CaseTable
/-!
# Upper and lower case

`Text.lower` and `Text.upper` apply the full case mappings of Unicode: one
code point may become several, and a capital sigma becomes the final form
of the small one where it ends a word.
-/

namespace QueryConsole

namespace CaseTable

/-- The code point that a list of stretches maps `n` to, if one holds it. -/
def shift? (stretches : List Stretch) (n : Nat) : Option Nat :=
  (stretches.find? fun s =>
    s.first ≤ n && n < s.first + s.count * s.step && (n - s.first) % s.step = 0).map
    fun s => ((n : Int) + s.shift).toNat

/-- Whether a list of ranges holds `n`. -/
def holds (ranges : List (Nat × Nat)) (n : Nat) : Bool :=
  ranges.any fun r => r.1 ≤ n && n ≤ r.2

end CaseTable

namespace CodePoint

/-- Whether the letters before and after this code point see each other
when a word is looked for. -/
def isPassedOver (p : CodePoint) : Bool :=
  CaseTable.holds CaseTable.passedOver p.value

/-- Whether the code point is a letter with case. -/
def isCased (p : CodePoint) : Bool :=
  CaseTable.holds CaseTable.cased p.value

/-- The lower case of a code point, wherever it stands. -/
def lower (p : CodePoint) : Text :=
  if p.value < 0x80 then
    if 0x41 ≤ p.value ∧ p.value ≤ 0x5A then [ofNat (p.value + 32)] else [p]
  else if p.value = 0x130 then [ofNat 0x69, ofNat 0x307]
  else
    match CaseTable.shift? CaseTable.lower p.value with
    | some n => [ofNat n]
    | none => [p]

/-- The upper case of a code point. -/
def upper (p : CodePoint) : Text :=
  if p.value < 0x80 then
    if 0x61 ≤ p.value ∧ p.value ≤ 0x7A then [ofNat (p.value - 32)] else [p]
  else
    match CaseTable.expanding.lookup p.value with
    | some ns => ns.map ofNat
    | none =>
      match CaseTable.shift? CaseTable.upper p.value with
      | some n => [ofNat n]
      | none => [p]

end CodePoint

namespace Text

/-- Whether the nearest code point that is not passed over is a cased
letter. -/
def meetsCased (t : Text) : Bool :=
  match t.dropWhile CodePoint.isPassedOver with
  | [] => false
  | p :: _ => p.isCased

/-- A text in lower case. -/
def lower (t : Text) : Text :=
  go [] t
where
  /-- `before` is what has been read, nearest code point first. -/
  go (before : Text) : Text → Text
    | [] => []
    | p :: rest =>
      let here :=
        if p.value = 0x3A3 then
          if meetsCased before && !meetsCased rest then [CodePoint.ofNat 0x3C2]
          else [CodePoint.ofNat 0x3C3]
        else p.lower
      here ++ go (p :: before) rest

/-- A text in upper case. -/
def upper (t : Text) : Text :=
  t.flatMap CodePoint.upper

end Text

end QueryConsole
