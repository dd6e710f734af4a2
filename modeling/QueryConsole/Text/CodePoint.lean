/-!
# Text as a list of code points

Queries, replies and messages may hold surrogates that belong to no pair,
which `String` cannot. A `CodePoint` is a Unicode scalar value or such a
surrogate, and a `Text` is a list of them. `value_injective` says that the
number of a code point determines it, and `ofNat?_value` that every number
below `0x110000` is that of one code point.
-/

namespace QueryConsole

/-- A code point: a scalar value, or a surrogate given by its distance
from `U+D800`. -/
inductive CodePoint
  | scalar (c : Char)
  | surrogate (offset : Fin 2048)
  deriving DecidableEq, Repr, Inhabited

/-- A text is the list of its code points. -/
abbrev Text := List CodePoint

namespace CodePoint

/-- The number of a code point. -/
def value : CodePoint → Nat
  | scalar c => c.toNat
  | surrogate offset => 0xD800 + offset

/-- The code point with a given number, if there is one. -/
def ofNat? (n : Nat) : Option CodePoint :=
  if h : 0xD800 ≤ n ∧ n < 0xE000 then some (surrogate ⟨n - 0xD800, by omega⟩)
  else if h : n.isValidChar then some (scalar (Char.ofNatAux n h))
  else none

/-- The code point with a given number; the replacement character where
there is none. -/
def ofNat (n : Nat) : CodePoint :=
  (ofNat? n).getD (scalar '\uFFFD')

/-- Whether the code point is half of a pair that is not there. -/
def isSurrogate : CodePoint → Bool
  | scalar _ => false
  | surrogate _ => true

/-- A surrogate that may begin a pair. -/
def isHigh : CodePoint → Bool
  | scalar _ => false
  | surrogate offset => offset.val < 1024

/-- A surrogate that may end a pair. -/
def isLow : CodePoint → Bool
  | scalar _ => false
  | surrogate offset => 1024 ≤ offset.val

/-- The scalar value that a pair of surrogates stands for. -/
def ofPair? : CodePoint → CodePoint → Option CodePoint
  | surrogate high, surrogate low =>
    if high.val < 1024 ∧ 1024 ≤ low.val then
      some (ofNat (0x10000 + high.val * 1024 + (low.val - 1024)))
    else none
  | _, _ => none

theorem toNat_not_surrogate (c : Char) : ¬ (0xD800 ≤ c.toNat ∧ c.toNat < 0xE000) := by
  have h : c.toNat < 0xD800 ∨ 0xDFFF < c.toNat ∧ c.toNat < 0x110000 := c.valid
  omega

@[simp] theorem ofNat?_value (p : CodePoint) : ofNat? p.value = some p := by
  cases p with
  | scalar c =>
    have valid : (scalar c).value.isValidChar := c.valid
    have outside : ¬ (0xD800 ≤ (scalar c).value ∧ (scalar c).value < 0xE000) :=
      toNat_not_surrogate c
    rw [ofNat?, dif_neg outside, dif_pos valid]
    rfl
  | surrogate offset =>
    have inside : 0xD800 ≤ (surrogate offset).value ∧ (surrogate offset).value < 0xE000 := by
      simp only [value]
      omega
    rw [ofNat?, dif_pos inside]
    simp [value]

/-- **A code point is determined by its number.** -/
theorem value_injective {p q : CodePoint} (h : p.value = q.value) : p = q := by
  have hp := ofNat?_value p
  rw [h, ofNat?_value] at hp
  exact (Option.some.inj hp).symm

theorem value_lt (p : CodePoint) : p.value < 0x110000 := by
  cases p with
  | scalar c =>
    have h : c.toNat < 0xD800 ∨ 0xDFFF < c.toNat ∧ c.toNat < 0x110000 := c.valid
    simp only [value]
    omega
  | surrogate offset =>
    have h := offset.isLt
    simp only [value]
    omega

@[simp] theorem ofNat_value (p : CodePoint) : ofNat p.value = p := by
  rw [ofNat, ofNat?_value, Option.getD_some]

/-- Every number below the bound is that of its code point. -/
theorem value_ofNat {n : Nat} (h : n < 0x110000) : (ofNat n).value = n := by
  rw [ofNat, ofNat?]
  by_cases inside : 0xD800 ≤ n ∧ n < 0xE000
  · rw [dif_pos inside]
    simp only [Option.getD_some, value]
    omega
  · have valid : n.isValidChar := by
      rw [Nat.isValidChar]
      omega
    rw [dif_neg inside, dif_pos valid]
    rfl

end CodePoint

namespace Text

/-- The text that a string spells. -/
def ofString (s : String) : Text :=
  s.toList.map CodePoint.scalar

instance : Coe String Text := ⟨ofString⟩

/-- The text of one character. -/
def ofChar (c : Char) : Text := [CodePoint.scalar c]

/-- The string that a text spells, if it holds no surrogate. -/
def toString? : Text → Option String
  | t => (go t).map String.ofList
where
  go : Text → Option (List Char)
    | [] => some []
    | .scalar c :: t => (go t).map (c :: ·)
    | .surrogate _ :: _ => none

/-- Whether a text is made of scalar values only. -/
def isScalar (t : Text) : Bool :=
  t.all fun p => !p.isSurrogate

/-- Whether a text has only characters of ASCII. -/
def isAscii (t : Text) : Bool :=
  t.all fun p => p.value < 0x80

/-- A text with its adjacent pairs of surrogates joined to the characters
they stand for. -/
def joinPairs : Text → Text
  | [] => []
  | [p] => [p]
  | p :: q :: t =>
    match CodePoint.ofPair? p q with
    | some joined => joined :: joinPairs t
    | none => p :: joinPairs (q :: t)

/-- The texts of a list, one after another, with `separator` between
neighbours. -/
def intercalate (separator : Text) : List Text → Text
  | [] => []
  | [t] => t
  | t :: rest => t ++ separator ++ intercalate separator rest

/-- The parts of a text between the occurrences of one code point. -/
def splitOn (separator : CodePoint) : Text → List Text
  | [] => [[]]
  | p :: t =>
    if p = separator then [] :: splitOn separator t
    else
      match splitOn separator t with
      | [] => [[p]]
      | part :: rest => (p :: part) :: rest

/-- The text order: code point by code point, by number. -/
def le : Text → Text → Bool
  | [], _ => true
  | _ :: _, [] => false
  | p :: t, q :: u =>
    if p.value < q.value then true
    else if q.value < p.value then false
    else le t u

/-- What remains after a given beginning, if the text has it. -/
def dropStart? : Text → Text → Option Text
  | [], t => some t
  | _ :: _, [] => none
  | p :: start, q :: t => if p = q then dropStart? start t else none

end Text

end QueryConsole
