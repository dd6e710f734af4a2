import QueryConsole.Json.Printer
import QueryConsole.Proofs.Json.Numerals
import QueryConsole.Proofs.Number.Shortest
/-!
# Numbers as they are written

A number is written as a numeral of the grammar whose value it is. For an
integer this is a matter of its digits (`number_ofInt`); a finite double
precision number is laid out in one of three ways, none of which is the
way of an integer, and each way reads as the decimal that is laid out
(`number_write`), which reads back as the number (`number_text`).
-/

namespace QueryConsole.Json

open Grammar Binary64

/-! ## Integers -/

theorem minus_signText (negative : Bool) : Minus (signText negative) negative := by
  cases negative with
  | false => exact .absent
  | true => exact .minus

theorem whole_ofNat (n : Nat) : Whole (Digits.ofNat n) := by
  obtain ⟨d, ds, digits, first⟩ := Digits.ofNat_head n
  by_cases zero : n = 0
  · rw [zero]
    exact .zero
  · rw [digits]
    exact .positive (first zero)

theorem number_ofNat (negative : Bool) (n : Nat) :
    Number (signText negative ++ Text.ofNat n) ⟨negative, Digits.ofNat n, [], none⟩ := by
  have := Number.mk (minus_signText negative) (whole_ofNat n) .absent .absent
  rwa [List.append_nil, List.append_nil] at this

/-- **An integer is written as a numeral that is it.** -/
theorem number_ofInt (i : Int) :
    ∃ n : Numeral, Number (Text.ofInt i) n ∧ n.fraction = [] ∧ n.exponent = none ∧
      n.whole = Digits.ofNat i.natAbs ∧ n.toInt = i := by
  cases i with
  | ofNat n =>
    refine ⟨_, number_ofNat false n, rfl, rfl, rfl, ?_⟩
    rw [Numeral.toInt, if_neg (by simp), Digits.toNat_ofNat]
    rfl
  | negSucc n =>
    refine ⟨_, number_ofNat true (n + 1), rfl, rfl, rfl, ?_⟩
    rw [Numeral.toInt, if_pos rfl, Digits.toNat_ofNat]
    rfl

/-! ## Layouts -/

/-- An exponent is written with its sign and with zeros before its digits. -/
theorem exponent_written (width : Nat) (x : Int) :
    Exponent (Layout.exponent 'e' width x) (some x) := by
  obtain ⟨d, ds, digits, -⟩ := Digits.ofNat_head x.natAbs
  have sign : Sign (Text.ofChar (if x < 0 then '-' else '+')) (decide (x < 0)) := by
    by_cases negative : x < 0
    · rw [if_pos negative, decide_eq_true negative]
      exact .minus
    · rw [if_neg negative, decide_eq_false negative]
      exact .plus
  have nonempty : List.replicate (width - (Digits.ofNat x.natAbs).length) 0 ++
      Digits.ofNat x.natAbs ≠ [] := by
    rw [digits]
    simp
  have value := Exponent.present (.inl rfl) sign nonempty
  rw [Digits.toNat_append, Digits.toNat_replicate_zero, Digits.toNat_ofNat] at value
  have same : (if decide (x < 0) = true then -((0 * 10 ^ (Digits.ofNat x.natAbs).length +
      x.natAbs : Nat) : Int) else (0 * 10 ^ (Digits.ofNat x.natAbs).length + x.natAbs : Nat)) =
        x := by
    simp only [Nat.zero_mul, Nat.zero_add, decide_eq_true_eq]
    split <;> omega
  rw [same] at value
  exact value

/-- Digits with a point between them are a numeral without an exponent. -/
theorem number_withPoint (negative : Bool) {whole fraction : List Digit} (h : Whole whole)
    (nonempty : fraction ≠ []) :
    Number (signText negative ++ Layout.withPoint whole fraction)
      ⟨negative, whole, fraction, none⟩ := by
  have := Number.mk (minus_signText negative) h (.present nonempty) .absent
  rw [Layout.withPoint, if_neg (by simpa using nonempty)]
  rwa [List.append_nil] at this

/-- One digit, the others after a point if there are any, and an exponent. -/
theorem number_scientific (negative : Bool) {d : Digit} (positive : d ≠ 0) (ds : List Digit)
    (width : Nat) (x : Int) :
    Number (signText negative ++ (Layout.withPoint [d] ds ++ Layout.exponent 'e' width x))
      ⟨negative, [d], ds, some x⟩ := by
  have fraction : Fraction (if ds.isEmpty then [] else
      Text.ofChar '.' ++ ds.map Digits.codePoint) ds := by
    cases ds with
    | nil => exact .absent
    | cons e es => exact .present (by simp)
  have whole : Whole [d] := .positive positive
  have := Number.mk (minus_signText negative) whole fraction (exponent_written width x)
  rwa [← List.append_assoc ([d].map Digits.codePoint)] at this

/-! ## Double precision numbers -/

/-- A text that is a numeral, not of an integer, with the value of a
decimal. -/
def Writes (negative : Bool) (t : Text) (coefficient : Nat) (exponent : Int) : Prop :=
  ∃ n, Number (signText negative ++ t) n ∧ (n.fraction ≠ [] ∨ n.exponent ≠ none) ∧
    n.toBinary64 = ofDecimal negative coefficient exponent

variable {d : Digit}

theorem writes_below_one (negative : Bool) (d : Digit) (ds : List Digit) {x : Int} (below : x < 0) :
    Writes negative (Layout.withPoint [0] (List.replicate ((-x).toNat - 1) 0 ++ d :: ds))
      (Digits.toNat (d :: ds)) (x - ds.length) := by
  have nonempty : List.replicate ((-x).toNat - 1) 0 ++ d :: ds ≠ [] := by simp
  refine ⟨_, number_withPoint negative .zero nonempty, .inl nonempty, ?_⟩
  have value : Digits.toNat ([0] ++ (List.replicate ((-x).toNat - 1) 0 ++ d :: ds)) =
      Digits.toNat (d :: ds) := by
    rw [Digits.toNat_append, Digits.toNat_append, Digits.toNat_replicate_zero]
    simp [Digits.toNat]
  have places : (0 : Int) - (List.replicate ((-x).toNat - 1) 0 ++ d :: ds).length =
      x - ds.length := by
    rw [List.length_append, List.length_replicate, List.length_cons]
    omega
  rw [Numeral.toBinary64]
  simp only [Option.getD_none, value, places]

theorem writes_within (negative : Bool) (positive : d ≠ 0) (ds : List Digit) {k : Nat}
    (within : k < ds.length) :
    Writes negative (Layout.withPoint ((d :: ds).take (k + 1)) ((d :: ds).drop (k + 1)))
      (Digits.toNat (d :: ds)) (k - ds.length) := by
  have nonempty : (d :: ds).drop (k + 1) ≠ [] := by
    simpa using within
  have whole : Whole ((d :: ds).take (k + 1)) := by
    rw [List.take_succ_cons]
    exact .positive positive
  refine ⟨_, number_withPoint negative whole nonempty, .inl nonempty, ?_⟩
  have places : (0 : Int) - ((d :: ds).drop (k + 1)).length = k - ds.length := by
    rw [List.length_drop, List.length_cons]
    omega
  rw [Numeral.toBinary64]
  simp only [Option.getD_none, List.take_append_drop, places]

theorem writes_beyond (negative : Bool) (positive : d ≠ 0) (ds : List Digit) (zeros : Nat) :
    Writes negative (Layout.withPoint (d :: ds ++ List.replicate zeros 0) [0])
      (Digits.toNat (d :: ds)) zeros := by
  have whole : Whole (d :: ds ++ List.replicate zeros 0) := .positive positive
  refine ⟨_, number_withPoint negative whole (by simp), .inl (by simp), ?_⟩
  have nonzero : Digits.toNat (d :: ds) ≠ 0 := by
    rw [Digits.toNat_cons]
    have : d.val ≠ 0 := fun zero => positive (Fin.ext zero)
    have := Nat.mul_pos (Nat.pos_of_ne_zero this) (Nat.pow_pos (n := ds.length) (by omega : 0 < 10))
    omega
  have value : Digits.toNat (d :: ds ++ List.replicate zeros 0 ++ [0]) =
      Digits.toNat (d :: ds) * 10 ^ (zeros + 1) := by
    rw [List.append_assoc, ← List.replicate_succ', Digits.toNat_append,
      Digits.toNat_replicate_zero, List.length_replicate, Nat.add_zero]
  have places : (0 : Int) - ([0] : List Digit).length = zeros - (zeros + 1 : Nat) := by
    simp only [List.length_singleton]
    omega
  rw [Numeral.toBinary64]
  simp only [Option.getD_none, value, places]
  exact ofDecimal_mul_pow negative nonzero zeros (zeros + 1)

/-- **What is laid out is written**: a decimal in the plain layout is a
numeral with its value. -/
theorem writes_plain (negative : Bool) (positive : d ≠ 0) (ds : List Digit) (x : Int) :
    Writes negative (Layout.plain.write ⟨d :: ds, x⟩) (Digits.toNat (d :: ds))
      (x - ds.length) := by
  rw [Layout.write]
  split
  · rw [Layout.positional]
    by_cases below : x < 0
    · have padded : Layout.plain.leastPlaces -
          (List.replicate ((-x).toNat - 1) 0 ++ d :: ds).length = 0 := by
        simp [Layout.plain]
        omega
      simp only [if_pos below, padded, List.replicate_zero, List.append_nil]
      exact writes_below_one negative d ds below
    · obtain ⟨k, rfl⟩ := Int.eq_ofNat_of_zero_le (Int.not_lt.1 below)
      simp only [if_neg below, Int.toNat_natCast]
      by_cases within : k < ds.length
      · -- the point stands between two of the digits
        have whole : k + 1 - (d :: ds).length = 0 := by simp; omega
        have padded : Layout.plain.leastPlaces - ((d :: ds).drop (k + 1)).length = 0 := by
          simp [Layout.plain]
          omega
        rw [whole, padded, List.replicate_zero, List.append_nil, List.append_nil]
        exact writes_within negative positive ds within
      · -- the digits end before the point, up to which zeros are written
        have all : (d :: ds).length ≤ k + 1 := by simp; omega
        have zeros : k + 1 - (d :: ds).length = k - ds.length := by simp
        have places : ((k : Int) - ds.length) = (k - ds.length : Nat) := by omega
        rw [List.take_of_length_le all, List.drop_eq_nil_of_le all, zeros, places]
        exact writes_beyond negative positive ds (k - ds.length)
  · refine ⟨_, number_scientific negative positive ds 2 x, .inr (by simp), ?_⟩
    rw [Numeral.toBinary64]
    rfl

/-- The text of a magnitude is a numeral that reads back as it. -/
theorem writes_magnitude (negative : Bool) {quanta : Nat} (h : isMagnitude quanta = true) :
    ∃ n, Number (signText negative ++ magnitudeText quanta) n ∧
      (n.fraction ≠ [] ∨ n.exponent ≠ none) ∧ n.toBinary64 = .finite negative quanta := by
  rw [magnitudeText]
  by_cases zero : quanta = 0
  · rw [if_pos zero, zero]
    have nonempty : ([0] : List Digit) ≠ [] := by simp
    refine ⟨_, number_withPoint negative .zero nonempty, .inl nonempty, ?_⟩
    rw [Numeral.toBinary64, ofDecimal]
    exact if_pos rfl
  · obtain ⟨coefficient, e, positive, same, back⟩ := Decimal.shortest_reads_back zero h
    obtain ⟨d, ds, zeros, trimmed, first, digits⟩ := Decimal.trimmed_append positive
    -- the digits are written without the zeros at their end, which the exponent accounts for
    have value : coefficient = Digits.toNat (d :: ds) * 10 ^ zeros := by
      rw [← Digits.toNat_ofNat coefficient, digits, Digits.toNat_append,
        Digits.toNat_replicate_zero, List.length_replicate, Nat.add_zero]
    have nonzero : Digits.toNat (d :: ds) ≠ 0 := by
      rintro nothing
      rw [nothing, Nat.zero_mul] at value
      exact positive value
    obtain ⟨n, spelled, part, read⟩ :=
      writes_plain negative first ds (e + (Digits.ofNat coefficient).length - 1)
    rw [if_neg zero, same, Decimal.ofCoefficient, trimmed]
    refine ⟨n, spelled, part, read.trans ?_⟩
    have places : e + (Digits.ofNat coefficient).length - 1 - ds.length = e + zeros := by
      rw [digits, List.length_append, List.length_cons, List.length_replicate]
      omega
    have shifted := ofDecimal_mul_pow negative nonzero (e + zeros) zeros
    rw [← value, Int.add_sub_cancel] at shifted
    rw [places, ← shifted]
    exact ofDecimal_negative back negative

/-- **A finite number is written as a numeral that reads back as it.** -/
theorem number_text {negative : Bool} {quanta : Nat} (h : isMagnitude quanta = true) :
    ∃ n, Number (Binary64.finite negative quanta).text n ∧
      Amount n (.float (.finite negative quanta)) := by
  obtain ⟨n, spelled, part, value⟩ := writes_magnitude negative h
  exact ⟨n, spelled, value ▸ .float part⟩

end QueryConsole.Json
