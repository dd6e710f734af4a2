import QueryConsole.Text.CodePoint
/-!
# Decimal and hexadecimal digits

Natural numbers as lists of decimal digits, most significant first, and
the texts of numbers. `toNat_ofNat` says that the digits of a number read
as that number.
-/

namespace QueryConsole

/-- A power of a natural number means the same whatever else is imported. -/
@[default_instance 20000]
instance (priority := 2000) instPowNaturals : Pow Nat Nat := instPowNat

/-- A decimal digit. -/
abbrev Digit := Fin 10

/-- There is a digit, so that a literal may be one. -/
instance instNeZeroTen : @NeZero Nat Zero.ofOfNat0 10 := ⟨by decide⟩

namespace Digits

/-- The number that a list of digits reads as. -/
def toNat (ds : List Digit) : Nat :=
  ds.foldl (fun n d => 10 * n + d.val) 0

/-- The digits of a number; a single zero for zero. -/
def ofNat (n : Nat) : List Digit :=
  go (n + 1) n []
where
  /-- Puts the digits of `n` before those already found. -/
  go : Nat → Nat → List Digit → List Digit
    | 0, _, found => found
    | fuel + 1, n, found =>
      let found := Fin.ofNat 10 n :: found
      if n < 10 then found else go fuel (n / 10) found

/-- The digit that a code point of ASCII is. -/
def digit? : CodePoint → Option Digit
  | .scalar c =>
    if '0'.toNat ≤ c.toNat ∧ c.toNat ≤ '9'.toNat then some (Fin.ofNat 10 (c.toNat - '0'.toNat))
    else none
  | .surrogate _ => none

/-- The code point that a digit is written as. -/
def codePoint (d : Digit) : CodePoint :=
  .scalar (Char.ofNat ('0'.toNat + d.val))

/-- The digits at the beginning of a text, and the rest. -/
def span : Text → List Digit × Text
  | [] => ([], [])
  | p :: t =>
    match digit? p with
    | some d => (d :: (span t).1, (span t).2)
    | none => ([], p :: t)

theorem foldl_toNat (ds : List Digit) (n : Nat) :
    ds.foldl (fun n d => 10 * n + d.val) n = n * 10 ^ ds.length + toNat ds := by
  induction ds generalizing n with
  | nil => simp [toNat]
  | cons d ds ih =>
    simp only [toNat, List.foldl_cons, List.length_cons]
    rw [ih, ih (10 * 0 + d.val), Nat.pow_succ, Nat.add_mul, ← Nat.add_assoc]
    congr 1
    simp only [Nat.mul_zero, Nat.zero_add, Nat.add_right_cancel_iff]
    rw [Nat.mul_comm 10 n, Nat.mul_assoc, Nat.mul_comm 10]

theorem toNat_cons (d : Digit) (ds : List Digit) :
    toNat (d :: ds) = d.val * 10 ^ ds.length + toNat ds := by
  have h := foldl_toNat ds (10 * 0 + d.val)
  simpa [toNat] using h

theorem toNat_go (fuel n : Nat) (found : List Digit) (h : n < fuel) :
    toNat (ofNat.go fuel n found) = n * 10 ^ found.length + toNat found := by
  induction fuel generalizing n found with
  | zero => omega
  | succ fuel ih =>
    rw [ofNat.go]
    split
    · next small =>
      rw [toNat_cons]
      simp [Fin.ofNat, Nat.mod_eq_of_lt small]
    · next large =>
      rw [ih _ _ (by omega), toNat_cons, List.length_cons, Nat.pow_succ]
      simp only [Fin.ofNat]
      rw [← Nat.add_assoc]
      congr 1
      rw [Nat.mul_comm (10 ^ found.length), ← Nat.mul_assoc, ← Nat.add_mul]
      congr 1
      omega

/-- **The digits of a number read as that number.** -/
theorem toNat_ofNat (n : Nat) : toNat (ofNat n) = n := by
  rw [ofNat, toNat_go _ _ _ (Nat.lt_succ_self n)]
  simp [toNat]

theorem digit?_codePoint (d : Digit) : digit? (codePoint d) = some d := by
  revert d
  decide

end Digits

namespace Text

/-- The digits of a natural number. -/
def ofNat (n : Nat) : Text :=
  (Digits.ofNat n).map Digits.codePoint

/-- An integer: its digits, after a minus sign when it is negative. -/
def ofInt : Int → Text
  | .ofNat n => ofNat n
  | .negSucc n => CodePoint.scalar '-' :: ofNat (n + 1)

/-- The small hexadecimal digit of a number below sixteen. -/
def hexDigit (n : Nat) : CodePoint :=
  .scalar (if n < 10 then Char.ofNat (48 + n) else Char.ofNat (87 + n))

/-- The last `width` hexadecimal digits of a number. -/
def hex : Nat → Nat → Text
  | 0, _ => []
  | width + 1, n => hex width (n / 16) ++ [hexDigit (n % 16)]

end Text

/-- The value of a hexadecimal digit of either case. -/
def CodePoint.hexValue? : CodePoint → Option Nat
  | .scalar c =>
    let n := c.toNat
    if 48 ≤ n ∧ n ≤ 57 then some (n - 48)
    else if 97 ≤ n ∧ n ≤ 102 then some (n - 87)
    else if 65 ≤ n ∧ n ≤ 70 then some (n - 55)
    else none
  | .surrogate _ => none

end QueryConsole
