import QueryConsole.Number.Digits
/-!
# Digits in a text and in a number

Two things about decimal digits. `span_sound` and `span_map` say which
digits are taken from the beginning of a text: all of them and nothing
else. `ofNat_of_ge` is the recursion of the digits of a number, from which
come their count (`length_le_iff`) and their first digit (`ofNat_head`).
-/

namespace QueryConsole.Digits

/-! ## Digits at the beginning of a text -/

/-- A code point is a digit exactly if it is the one that the digit is
written as. -/
theorem digit?_eq_some {p : CodePoint} {d : Digit} : digit? p = some d ↔ p = codePoint d := by
  refine ⟨fun read => ?_, fun same => same ▸ digit?_codePoint d⟩
  cases p with
  | surrogate offset => simp [digit?] at read
  | scalar c =>
    rw [digit?] at read
    split at read
    · next range =>
      rw [← Option.some.inj read, codePoint]
      have low : (48 : Nat) ≤ c.toNat := range.1
      have high : c.toNat ≤ 57 := range.2
      have value : 48 + (c.toNat - 48) % 10 = c.toNat := by omega
      exact congrArg CodePoint.scalar ((Char.ofNat_toNat c).symm.trans (congrArg _ value.symm))
    · simp at read

/-- A text that does not begin with a digit. -/
def NoDigit (t : Text) : Prop :=
  ∀ p, t.head? = some p → digit? p = none

/-- The digits that are taken, and the rest, make the text. -/
theorem span_sound {t rest : Text} {ds : List Digit} (h : span t = (ds, rest)) :
    t = ds.map codePoint ++ rest ∧ NoDigit rest := by
  induction t generalizing ds with
  | nil =>
    obtain ⟨rfl, rfl⟩ := Prod.mk.inj h
    exact ⟨rfl, by simp [NoDigit]⟩
  | cons p t ih =>
    rw [span] at h
    split at h
    · next d hd =>
      obtain ⟨rfl, rfl⟩ := Prod.mk.inj h
      obtain ⟨same, stops⟩ := ih rfl
      exact ⟨by rw [digit?_eq_some.1 hd, List.map_cons, List.cons_append, ← same], stops⟩
    · next hp =>
      obtain ⟨rfl, rfl⟩ := Prod.mk.inj h
      refine ⟨rfl, fun q hq => ?_⟩
      rw [← Option.some.inj hq]
      exact hp

/-- Digits are all taken if no digit follows them. -/
theorem span_map (ds : List Digit) {rest : Text} (h : NoDigit rest) :
    span (ds.map codePoint ++ rest) = (ds, rest) := by
  induction ds with
  | nil =>
    cases rest with
    | nil => rfl
    | cons p rest =>
      rw [List.map_nil, List.nil_append, span, h p rfl]
  | cons d ds ih => rw [List.map_cons, List.cons_append, span, digit?_codePoint, ih]

/-! ## The number that digits read as -/

theorem toNat_append (a b : List Digit) :
    toNat (a ++ b) = toNat a * 10 ^ b.length + toNat b := by
  rw [toNat, List.foldl_append, foldl_toNat]
  rfl

theorem toNat_replicate_zero (n : Nat) : toNat (List.replicate n 0) = 0 := by
  induction n with
  | zero => rfl
  | succ n ih => rw [List.replicate_succ, toNat_cons, ih, Fin.val_zero, Nat.zero_mul]

theorem toNat_lt (ds : List Digit) : toNat ds < 10 ^ ds.length := by
  induction ds with
  | nil => simp [toNat]
  | cons d ds ih =>
    have small : d.val ≤ 9 := by omega
    have := Nat.mul_le_mul_right (10 ^ ds.length) small
    rw [toNat_cons, List.length_cons, Nat.pow_succ]
    omega

/-! ## The digits of a number -/

theorem go_eq (fuel n : Nat) (found : List Digit) (h : n < fuel) :
    ofNat.go fuel n found = ofNat n ++ found := by
  induction n using Nat.strongRecOn generalizing fuel found with
  | ind n ih =>
    obtain ⟨fuel, rfl⟩ := Nat.exists_eq_succ_of_ne_zero (Nat.ne_zero_of_lt h)
    rw [ofNat, ofNat.go, ofNat.go]
    split
    · rfl
    · rw [ih (n / 10) (by omega) fuel _ (by omega), ih (n / 10) (by omega) n _ (by omega),
        List.append_assoc]
      rfl

theorem ofNat_of_lt {n : Nat} (h : n < 10) : ofNat n = [Fin.ofNat 10 n] := by
  rw [ofNat, ofNat.go, if_pos h]

/-- **The recursion of the digits**: the last one comes after those of the
tenth part. -/
theorem ofNat_of_ge {n : Nat} (h : 10 ≤ n) : ofNat n = ofNat (n / 10) ++ [Fin.ofNat 10 n] := by
  rw [ofNat, ofNat.go, if_neg (by omega), go_eq _ _ _ (by omega)]

/-- A number has at least one digit, and a positive one does not begin with
a zero. -/
theorem ofNat_head (n : Nat) : ∃ d ds, ofNat n = d :: ds ∧ (n ≠ 0 → d ≠ 0) := by
  induction n using Nat.strongRecOn with
  | ind n ih =>
    by_cases small : n < 10
    · refine ⟨Fin.ofNat 10 n, [], ofNat_of_lt small, fun positive zero => positive ?_⟩
      have := congrArg Fin.val zero
      simp only [Fin.ofNat, Fin.val_zero] at this
      omega
    · obtain ⟨d, ds, same, positive⟩ := ih (n / 10) (by omega)
      refine ⟨d, ds ++ [Fin.ofNat 10 n], ?_, fun _ => positive (by omega)⟩
      rw [ofNat_of_ge (by omega), same, List.cons_append]

theorem length_pos (n : Nat) : 0 < (ofNat n).length := by
  obtain ⟨d, ds, digits, -⟩ := ofNat_head n
  rw [digits]
  exact Nat.succ_pos _

theorem lt_pow_length (n : Nat) : n < 10 ^ (ofNat n).length := by
  have := toNat_lt (ofNat n)
  rwa [toNat_ofNat] at this

/-- A number has at most `k` digits exactly if it is less than `10 ^ k`. -/
theorem length_le_iff {n k : Nat} (positive : 0 < k) : (ofNat n).length ≤ k ↔ n < 10 ^ k := by
  refine ⟨fun short => ?_, fun small => ?_⟩
  · exact Nat.lt_of_lt_of_le (lt_pow_length n) (Nat.pow_le_pow_right (by omega) short)
  · induction k generalizing n with
    | zero => omega
    | succ k ih =>
      by_cases digit : n < 10
      · simp [ofNat_of_lt digit]
      · have k_pos : 0 < k := by
          rcases Nat.eq_zero_or_pos k with rfl | pos
          · omega
          · exact pos
        rw [Nat.pow_succ] at small
        have := ih k_pos (Nat.div_lt_of_lt_mul (by rwa [Nat.mul_comm] at small))
        rw [ofNat_of_ge (by omega), List.length_append, List.length_singleton]
        omega

/-- A positive number with more than `k` digits is at least `10 ^ k`. -/
theorem pow_le_of_lt_length {n k : Nat} (nonzero : n ≠ 0) (long : k < (ofNat n).length) :
    10 ^ k ≤ n := by
  rcases Nat.eq_zero_or_pos k with rfl | positive
  · exact Nat.pos_of_ne_zero nonzero
  · refine Nat.le_of_not_lt fun small => ?_
    exact absurd ((length_le_iff positive).2 small) (Nat.not_le.2 long)

end QueryConsole.Digits
