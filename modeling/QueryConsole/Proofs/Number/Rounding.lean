import QueryConsole.Number.Decimal
import QueryConsole.Proofs.Number.Digits
/-!
# Rounding to double precision

What the rounding of a quotient depends on and what it gives. It depends on
the quotient alone and not on how it is written (`ofRatio_eq_ofRatio`), it
gives a magnitude (`isMagnitude_nearestQuanta`), none is nearer
(`nearestQuanta_nearest`), and a magnitude is its own rounding
(`nearestQuanta_of_isMagnitude`). A decimal is rounded as a quotient
(`ofDecimal_eq_ofRatio`), so all of this holds of decimals, and zeros at the
end of a coefficient do not matter (`ofDecimal_mul_pow`).
-/

namespace QueryConsole.Binary64

theorem quantaOfOne_pos : 0 < quantaOfOne := by
  decide +kernel

/-! ## Quotients -/

theorem divideToEven_mul (n d : Nat) {k : Nat} (positive : 0 < k) :
    divideToEven (n * k) (d * k) = divideToEven n d := by
  have less : 2 * (n % d * k) < d * k ↔ 2 * (n % d) < d := by
    rw [← Nat.mul_assoc]
    exact Nat.mul_lt_mul_right positive
  have more : d * k < 2 * (n % d * k) ↔ d < 2 * (n % d) := by
    rw [← Nat.mul_assoc]
    exact Nat.mul_lt_mul_right positive
  simp only [divideToEven, Nat.mul_div_mul_right n d positive, Nat.mul_mod_mul_right, less, more]

/-- A whole quotient is not rounded. -/
theorem divideToEven_mul_self (q : Nat) {d : Nat} (positive : 0 < d) :
    divideToEven (q * d) d = q := by
  rw [divideToEven]
  simp only [Nat.mul_mod_left, Nat.mul_div_cancel q positive]
  rw [if_pos (by omega)]

/-- Rounding goes down or up to the next whole number. -/
theorem divideToEven_bounds (n d : Nat) :
    n / d ≤ divideToEven n d ∧ divideToEven n d ≤ n / d + 1 := by
  rw [divideToEven]
  split
  · omega
  · split
    · omega
    · split <;> omega

/-- How far two naturals are apart. -/
def distance (a b : Nat) : Nat :=
  a - b + (b - a)

/-- **No whole number is nearer** to a quotient than the one it is rounded
to; both are multiplied by the denominator. -/
theorem divideToEven_nearest (n m : Nat) {d : Nat} (positive : 0 < d) :
    distance n (divideToEven n d * d) ≤ distance n (m * d) := by
  have parts : n / d * d + n % d = n := Nat.div_add_mod' n d
  have rest := Nat.mod_lt n positive
  have next : (n / d + 1) * d = n / d * d + d := Nat.succ_mul _ _
  have other : m * d ≤ n / d * d ∨ (n / d + 1) * d ≤ m * d := by
    rcases Nat.lt_or_ge (n / d) m with more | less
    · exact .inr (Nat.mul_le_mul_right d more)
    · exact .inl (Nat.mul_le_mul_right d less)
  have choice : divideToEven n d = n / d ∧ 2 * (n % d) ≤ d ∨
      divideToEven n d = n / d + 1 ∧ d ≤ 2 * (n % d) := by
    rw [divideToEven]
    split
    · omega
    · split
      · omega
      · split <;> omega
  unfold distance
  rcases choice with ⟨same, _⟩ | ⟨same, _⟩
  · rw [same]
    omega
  · rw [same]
    omega

/-! ## Magnitudes -/

/-- A factor that numerator and denominator share does not matter. -/
theorem nearestQuanta_mul (n d : Nat) {k : Nat} (positive : 0 < k) :
    nearestQuanta (n * k) (d * k) = nearestQuanta n d := by
  have scaled : n * k * quantaOfOne = n * quantaOfOne * k := by
    rw [Nat.mul_assoc, Nat.mul_comm k, Nat.mul_assoc]
  simp only [nearestQuanta, scaled, Nat.mul_div_mul_right _ d positive]
  rw [Nat.mul_right_comm d k, divideToEven_mul _ _ positive]

/-- Rounding does not go below the power of two that a quotient lies above. -/
theorem two_pow_le_nearestQuanta {n d : Nat} (nonzero : n * quantaOfOne / d ≠ 0) :
    2 ^ (n * quantaOfOne / d).log2 ≤ nearestQuanta n d := by
  rw [nearestQuanta]
  have below := (divideToEven_bounds (n * quantaOfOne)
    (d * 2 ^ ((n * quantaOfOne / d).log2 - 52))).1
  rw [← Nat.div_div_eq_div_mul] at below
  have least := Nat.log2_self_le nonzero
  generalize n * quantaOfOne / d = whole at below least ⊢
  refine Nat.le_trans ?_ (Nat.mul_le_mul_right _ below)
  have split : 2 ^ whole.log2 = 2 ^ (whole.log2 - (whole.log2 - 52)) * 2 ^ (whole.log2 - 52) := by
    rw [← Nat.pow_add]
    congr 1
    omega
  rw [split] at least ⊢
  exact Nat.mul_le_mul_right _ ((Nat.le_div_iff_mul_le (Nat.two_pow_pos _)).2 least)

/-- **No magnitude is nearer** to a quotient than the one it is rounded to.
Both are compared as quotients with one denominator. -/
theorem nearestQuanta_nearest (n : Nat) {d q : Nat} (positive : 0 < d)
    (magnitude : isMagnitude q = true) :
    distance (n * quantaOfOne) (nearestQuanta n d * d) ≤ distance (n * quantaOfOne) (q * d) := by
  rw [isMagnitude, Bool.and_eq_true, decide_eq_true_eq, decide_eq_true_eq] at magnitude
  rw [nearestQuanta]
  generalize n * quantaOfOne = scaled
  generalize power : (scaled / d).log2 = k
  have nearest (m : Nat) : distance scaled (divideToEven scaled (d * 2 ^ (k - 52)) *
      2 ^ (k - 52) * d) ≤ distance scaled (m * 2 ^ (k - 52) * d) := by
    rw [Nat.mul_assoc, Nat.mul_assoc, Nat.mul_comm _ d]
    exact divideToEven_nearest scaled m (Nat.mul_pos positive (Nat.two_pow_pos (k - 52)))
  by_cases multiple : 2 ^ (k - 52) ∣ q
  · obtain ⟨m, rfl⟩ := multiple
    rw [Nat.mul_comm _ m]
    exact nearest m
  · -- what is between the multiples lies below the power of two, which is one of them
    have nonzero : q ≠ 0 := fun zero => multiple (zero ▸ Nat.dvd_zero _)
    have finer : q.log2 - 52 < k - 52 := by
      refine Nat.lt_of_not_le fun coarser => multiple ?_
      exact Nat.dvd_trans (Nat.pow_dvd_pow 2 coarser) (Nat.dvd_of_mod_eq_zero magnitude.2)
    have below : q * d ≤ 2 ^ k * d :=
      Nat.mul_le_mul_right d (Nat.le_of_lt ((Nat.log2_lt nonzero).1 (by omega)))
    have whole : scaled / d ≠ 0 := by
      rintro zero
      rw [zero, Nat.log2_zero] at power
      omega
    have above : 2 ^ k * d ≤ scaled :=
      (Nat.le_div_iff_mul_le positive).1 (power ▸ Nat.log2_self_le whole)
    have least := nearest (2 ^ 52)
    rw [← Nat.pow_add, Nat.add_sub_cancel' (by omega)] at least
    unfold distance at least ⊢
    omega

/-- **The rounding depends on the quotient alone.** -/
theorem ofRatio_eq_ofRatio (negative : Bool) {n d n' d' : Nat} (hd : 0 < d) (hd' : 0 < d')
    (same : n * d' = n' * d) : ofRatio negative n d = ofRatio negative n' d' := by
  have quanta : nearestQuanta n d = nearestQuanta n' d' := by
    rw [← nearestQuanta_mul n d hd', ← nearestQuanta_mul n' d' hd, same, Nat.mul_comm d d']
  rw [ofRatio, ofRatio, quanta]

/-- At most 53 bits and any power of two make a magnitude, unless it is
too large. -/
theorem mod_eq_zero_of_bits {m : Nat} (bits : m ≤ 2 ^ 53) (k : Nat) :
    m * 2 ^ k % 2 ^ ((m * 2 ^ k).log2 - 52) = 0 := by
  refine Nat.mod_eq_zero_of_dvd ?_
  rcases Nat.eq_zero_or_pos m with rfl | positive
  · simp
  · have nonzero : m * 2 ^ k ≠ 0 := Nat.mul_ne_zero (by omega) (by simp)
    rcases Nat.lt_or_eq_of_le bits with less | rfl
    · have small : m * 2 ^ k < 2 ^ (53 + k) := by
        rw [Nat.pow_add]
        exact Nat.mul_lt_mul_of_pos_right less (Nat.two_pow_pos k)
      have log := (Nat.log2_lt nonzero).2 small
      exact Nat.dvd_trans (Nat.pow_dvd_pow 2 (by omega)) (Nat.dvd_mul_left _ _)
    · rw [← Nat.pow_add, Nat.log2_two_pow]
      exact Nat.pow_dvd_pow 2 (by omega)

/-- **What is rounded is a magnitude**, unless it is too large. -/
theorem isMagnitude_nearestQuanta {n d : Nat} (small : nearestQuanta n d < quantaOfOverflow) :
    isMagnitude (nearestQuanta n d) = true := by
  rw [isMagnitude, Bool.and_eq_true, decide_eq_true_eq, decide_eq_true_eq]
  refine ⟨small, ?_⟩
  rw [nearestQuanta]
  generalize n * quantaOfOne = scaled
  refine mod_eq_zero_of_bits ?_ _
  -- before rounding there are fewer than 53 bits, so rounding up gives at most `2 ^ 53`
  have top : scaled / d < 2 ^ ((scaled / d).log2 - 52) * 2 ^ 53 := by
    rw [← Nat.pow_add]
    exact Nat.lt_of_lt_of_le Nat.lt_log2_self (Nat.pow_le_pow_right (by omega) (by omega))
  have below := Nat.div_lt_of_lt_mul top
  have := (divideToEven_bounds scaled (d * 2 ^ ((scaled / d).log2 - 52))).2
  rw [← Nat.div_div_eq_div_mul] at this
  omega

/-- **A magnitude is its own rounding.** -/
theorem nearestQuanta_of_isMagnitude {quanta : Nat} (h : isMagnitude quanta = true) :
    nearestQuanta quanta quantaOfOne = quanta := by
  rw [isMagnitude, Bool.and_eq_true, decide_eq_true_eq, decide_eq_true_eq] at h
  obtain ⟨m, multiple⟩ := Nat.dvd_of_mod_eq_zero h.2
  simp only [nearestQuanta, Nat.mul_div_cancel quanta quantaOfOne_pos]
  generalize 2 ^ (quanta.log2 - 52) = unit at multiple ⊢
  rcases Nat.eq_zero_or_pos unit with rfl | positive
  · rw [multiple, Nat.zero_mul, Nat.mul_zero]
  · have exact_quotient : quanta * quantaOfOne = m * (quantaOfOne * unit) := by
      rw [multiple, Nat.mul_comm unit m, Nat.mul_assoc, Nat.mul_comm unit]
    rw [exact_quotient, divideToEven_mul_self m (Nat.mul_pos quantaOfOne_pos positive), multiple,
      Nat.mul_comm]

/-- An integer of at most 53 bits is its own rounding. -/
theorem ofInt_natCast {n : Nat} (bits : n ≤ 2 ^ 53) :
    ofInt n = finite false (n * quantaOfOne) := by
  have small : n * quantaOfOne < quantaOfOverflow := by
    have top : 2 ^ 53 * quantaOfOne < quantaOfOverflow := by decide +kernel
    exact Nat.lt_of_le_of_lt (Nat.mul_le_mul_right _ bits) top
  have magnitude : isMagnitude (n * quantaOfOne) = true := by
    rw [isMagnitude, Bool.and_eq_true, decide_eq_true_eq, decide_eq_true_eq]
    exact ⟨small, mod_eq_zero_of_bits bits 1074⟩
  have nearest : nearestQuanta n 1 = n * quantaOfOne := by
    rw [← nearestQuanta_mul n 1 quantaOfOne_pos, Nat.one_mul,
      nearestQuanta_of_isMagnitude magnitude]
  have sign : decide ((n : Int) < 0) = false := decide_eq_false (by omega)
  rw [ofInt, ofRatio, Int.natAbs_natCast, sign, nearest, if_pos small]

/-! ## Decimals -/

/-- A quotient beyond all magnitudes is infinite. -/
theorem ofRatio_of_large (negative : Bool) {n d : Nat} (positive : 0 < d)
    (large : quantaOfOverflow * d ≤ n * quantaOfOne) : ofRatio negative n d = infinite negative := by
  have whole : quantaOfOverflow ≤ n * quantaOfOne / d := (Nat.le_div_iff_mul_le positive).2 large
  have nonzero : n * quantaOfOne / d ≠ 0 := by
    have : 0 < quantaOfOverflow := by decide +kernel
    omega
  have power : quantaOfOverflow ≤ 2 ^ (n * quantaOfOne / d).log2 := by
    obtain ⟨k, same⟩ : ∃ k, quantaOfOverflow = 2 ^ k := ⟨2098, rfl⟩
    rw [same] at whole ⊢
    exact Nat.pow_le_pow_right (by omega) ((Nat.le_log2 nonzero).2 whole)
  have := two_pow_le_nearestQuanta nonzero
  rw [ofRatio]
  exact if_neg (by omega)

/-- A quotient below half a quantum is zero. -/
theorem ofRatio_of_small (negative : Bool) {n d : Nat} (small : 2 * (n * quantaOfOne) < d) :
    ofRatio negative n d = finite negative 0 := by
  have none : nearestQuanta n d = 0 := by
    have nothing : n * quantaOfOne / d = 0 := Nat.div_eq_of_lt (by omega)
    have same : n * quantaOfOne % d = n * quantaOfOne := Nat.mod_eq_of_lt (by omega)
    rw [nearestQuanta]
    simp only [nothing, Nat.log2_zero, Nat.zero_sub, Nat.pow_zero, Nat.mul_one, divideToEven, same,
      if_pos small]
  have positive : 0 < quantaOfOverflow := by decide +kernel
  rw [ofRatio, none]
  exact if_pos positive

/-- A decimal with more than 400 places before the point is infinite. -/
theorem ofRatio_of_places (negative : Bool) {coefficient : Nat} (nonzero : coefficient ≠ 0)
    {exponent : Int} (large : 400 < exponent + (Digits.ofNat coefficient).length) :
    ofRatio negative (coefficient * 10 ^ exponent.toNat) (10 ^ (-exponent).toNat) =
      infinite negative := by
  have top : quantaOfOverflow ≤ 10 ^ 400 * quantaOfOne := by decide +kernel
  have digits := Digits.pow_le_of_lt_length nonzero
    (Nat.sub_one_lt_of_lt (Digits.length_pos coefficient))
  have reached : 10 ^ 400 * 10 ^ (-exponent).toNat ≤ coefficient * 10 ^ exponent.toNat := by
    refine Nat.le_trans ?_ (Nat.mul_le_mul_right _ digits)
    rw [← Nat.pow_add, ← Nat.pow_add]
    exact Nat.pow_le_pow_right (by omega) (by omega)
  refine ofRatio_of_large negative (Nat.pow_pos (by omega)) ?_
  calc quantaOfOverflow * 10 ^ (-exponent).toNat
      ≤ 10 ^ 400 * quantaOfOne * 10 ^ (-exponent).toNat := Nat.mul_le_mul_right _ top
    _ = 10 ^ 400 * 10 ^ (-exponent).toNat * quantaOfOne := Nat.mul_right_comm _ _ _
    _ ≤ coefficient * 10 ^ exponent.toNat * quantaOfOne := Nat.mul_le_mul_right _ reached

/-- A decimal that begins more than 400 places after the point is zero. -/
theorem ofRatio_of_late (negative : Bool) {coefficient : Nat} {exponent : Int}
    (small : exponent + (Digits.ofNat coefficient).length < -400) :
    ofRatio negative (coefficient * 10 ^ exponent.toNat) (10 ^ (-exponent).toNat) =
      finite negative 0 := by
  obtain ⟨k, places, bottom⟩ : ∃ k : Nat,
      exponent + (Digits.ofNat coefficient).length + k ≤ 0 ∧ 2 * quantaOfOne < 10 ^ k :=
    ⟨400, by omega, by decide +kernel⟩
  have product := Nat.mul_lt_mul_of_lt_of_lt (Digits.lt_pow_length coefficient) bottom
  rw [← Nat.pow_add] at product
  have whole : exponent.toNat = 0 := by omega
  refine ofRatio_of_small negative ?_
  rw [whole, Nat.pow_zero, Nat.mul_one]
  calc 2 * (coefficient * quantaOfOne)
      = coefficient * (2 * quantaOfOne) := Nat.mul_left_comm _ _ _
    _ < 10 ^ ((Digits.ofNat coefficient).length + k) := product
    _ ≤ 10 ^ (-exponent).toNat := Nat.pow_le_pow_right (by omega) (by omega)

/-- **A decimal is rounded as the quotient that it is**, also where its
digits are not looked at. -/
theorem ofDecimal_eq_ofRatio (negative : Bool) {coefficient : Nat} (nonzero : coefficient ≠ 0)
    (exponent : Int) :
    ofDecimal negative coefficient exponent =
      ofRatio negative (coefficient * 10 ^ exponent.toNat) (10 ^ (-exponent).toNat) := by
  rw [ofDecimal, if_neg nonzero]
  split
  · next large => exact (ofRatio_of_places negative nonzero large).symm
  · split
    · next small => exact (ofRatio_of_late negative small).symm
    · split
      · next whole => rw [Int.toNat_of_nonpos (by omega : -exponent ≤ 0), Nat.pow_zero]
      · next part => rw [Int.toNat_of_nonpos (by omega : exponent ≤ 0), Nat.pow_zero, Nat.mul_one]

/-- **No magnitude is nearer to a decimal than the one it is read as.** -/
theorem ofDecimal_nearest {negative sign : Bool} {coefficient quanta other : Nat} {exponent : Int}
    (read : ofDecimal negative coefficient exponent = .finite sign quanta)
    (magnitude : isMagnitude other = true) :
    distance (coefficient * 10 ^ exponent.toNat * quantaOfOne) (quanta * 10 ^ (-exponent).toNat) ≤
      distance (coefficient * 10 ^ exponent.toNat * quantaOfOne)
        (other * 10 ^ (-exponent).toNat) := by
  by_cases zero : coefficient = 0
  · rw [ofDecimal, if_pos zero] at read
    obtain ⟨-, rfl⟩ := finite.inj read
    simp [zero, distance]
  · rw [ofDecimal_eq_ofRatio negative zero, ofRatio] at read
    split at read
    · obtain ⟨-, rfl⟩ := finite.inj read
      exact nearestQuanta_nearest _ (Nat.pow_pos (by omega)) magnitude
    · simp at read

/-- **Zeros at the end of a coefficient do not matter.** -/
theorem ofDecimal_mul_pow (negative : Bool) {coefficient : Nat} (nonzero : coefficient ≠ 0)
    (exponent : Int) (k : Nat) :
    ofDecimal negative (coefficient * 10 ^ k) (exponent - k) =
      ofDecimal negative coefficient exponent := by
  have nonzero' : coefficient * 10 ^ k ≠ 0 := Nat.mul_ne_zero nonzero (by simp)
  rw [ofDecimal_eq_ofRatio negative nonzero, ofDecimal_eq_ofRatio negative nonzero']
  refine ofRatio_eq_ofRatio negative (Nat.pow_pos (by omega)) (Nat.pow_pos (by omega)) ?_
  have exponents : k + (exponent - k).toNat + (-exponent).toNat =
      exponent.toNat + (-(exponent - k)).toNat := by omega
  rw [Nat.mul_assoc, Nat.mul_assoc, Nat.mul_assoc, ← Nat.pow_add, ← Nat.pow_add, ← Nat.pow_add,
    ← Nat.add_assoc, exponents]

/-- The sign does not change how a decimal is rounded. -/
theorem ofDecimal_negative {coefficient : Nat} {exponent : Int} {quanta : Nat}
    (h : ofDecimal false coefficient exponent = .finite false quanta) (negative : Bool) :
    ofDecimal negative coefficient exponent = .finite negative quanta := by
  by_cases zero : coefficient = 0
  · rw [ofDecimal, if_pos zero] at h ⊢
    obtain ⟨-, rfl⟩ := finite.inj h
    rfl
  · rw [ofDecimal_eq_ofRatio _ zero, ofRatio] at h ⊢
    split at h
    · next small =>
      obtain ⟨-, rfl⟩ := finite.inj h
      exact if_pos small
    · simp at h

/-! ## What numbers there are -/

/-- A number whose magnitude, if it has one, is a magnitude. -/
def IsDouble (x : Binary64) : Prop :=
  ∀ negative quanta, x = finite negative quanta → isMagnitude quanta = true

theorem isDouble_infinite (negative : Bool) : IsDouble (infinite negative) := by
  rintro _ _ ⟨⟩

/-- **What a decimal is rounded to is a double precision number.** -/
theorem isDouble_ofDecimal (negative : Bool) (coefficient : Nat) (exponent : Int) :
    IsDouble (ofDecimal negative coefficient exponent) := by
  intro sign quanta same
  by_cases zero : coefficient = 0
  · rw [ofDecimal, if_pos zero] at same
    obtain ⟨-, rfl⟩ := finite.inj same
    decide +kernel
  · rw [ofDecimal_eq_ofRatio negative zero, ofRatio] at same
    split at same
    · next small =>
      obtain ⟨-, rfl⟩ := finite.inj same
      exact isMagnitude_nearestQuanta small
    · simp at same

end QueryConsole.Binary64
