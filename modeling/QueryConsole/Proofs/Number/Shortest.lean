import QueryConsole.Proofs.Number.Rounding
/-!
# The shortest digits read back

The digits that are chosen for a number are tried before they are taken,
and where none do there are all of its digits; so the digits of every
positive magnitude read back as it (`shortest_reads_back`). How many there
are does not matter here. `trimmed_append` takes a coefficient apart into
the digits that are written and the zeros that are not.
-/

namespace QueryConsole.Decimal

open Binary64

/-- A quotient over a power of two, written as a decimal. -/
theorem ofRatio_tens (n k : Nat) :
    ofRatio false (n * 5 ^ k * 10 ^ 0) (10 ^ k) = ofRatio false n (2 ^ k) := by
  refine ofRatio_eq_ofRatio false (Nat.pow_pos (by omega)) (Nat.two_pow_pos k) ?_
  rw [Nat.pow_zero, Nat.mul_one, Nat.mul_assoc, ← Nat.mul_pow]

/-- All digits of a magnitude read back as it. -/
theorem read_exact {quanta : Nat} (positive : quanta ≠ 0) (h : isMagnitude quanta = true) :
    read (quanta * 5 ^ 1074) (-1074) = .finite false quanta := by
  have bound : quanta < quantaOfOverflow := by
    rw [isMagnitude, Bool.and_eq_true, decide_eq_true_eq] at h
    exact h.1
  have nonzero : quanta * 5 ^ 1074 ≠ 0 := Nat.mul_ne_zero positive (by decide +kernel)
  have none : (-1074 : Int).toNat = 0 := rfl
  have all : (-(-1074) : Int).toNat = 1074 := rfl
  have same := nearestQuanta_of_isMagnitude h
  rw [quantaOfOne] at same
  rw [read, ofDecimal_eq_ofRatio false nonzero, none, all, ofRatio_tens quanta 1074, ofRatio, same]
  exact if_pos bound

/-- What is found on a grid reads back. -/
theorem read_onGrid {quanta coefficient : Nat} {e : Int} (h : onGrid? quanta e = some coefficient) :
    read coefficient e = .finite false quanta := by
  obtain ⟨nearer, farther, same⟩ : ∃ nearer farther, onGrid? quanta e =
      if read nearer e = .finite false quanta then some nearer
      else if read farther e = .finite false quanta then some farther
      else none := ⟨_, _, rfl⟩
  rw [same] at h
  split at h
  · next nearer => rwa [← Option.some.inj h]
  · split at h
    · next farther => rwa [← Option.some.inj h]
    · simp at h

theorem firstGrid_reads_back {quanta : Nat} (positive : quanta ≠ 0)
    (h : isMagnitude quanta = true) (magnitude : Int) (counts : List Nat) :
    ∃ coefficient e, firstGrid quanta magnitude counts = ofCoefficient coefficient e ∧
      read coefficient e = .finite false quanta := by
  induction counts with
  | nil => exact ⟨_, _, rfl, read_exact positive h⟩
  | cons count counts ih =>
    rw [firstGrid]
    split
    · next coefficient found => exact ⟨_, _, rfl, read_onGrid found⟩
    · exact ih

/-- **The shortest digits read back**: they are those of a decimal that
reads as the number. -/
theorem shortest_reads_back {quanta : Nat} (positive : quanta ≠ 0)
    (h : isMagnitude quanta = true) :
    ∃ coefficient e, coefficient ≠ 0 ∧ shortest quanta = ofCoefficient coefficient e ∧
      read coefficient e = .finite false quanta := by
  obtain ⟨coefficient, e, same, back⟩ :=
    firstGrid_reads_back positive h (magnitude quanta quantaOfOne) (List.range 17)
  refine ⟨coefficient, e, ?_, same, back⟩
  rintro rfl
  rw [read, ofDecimal, if_pos rfl] at back
  exact positive (finite.inj back).2.symm

/-- A positive coefficient is its trimmed digits and zeros; the digits do
not begin with a zero. -/
theorem trimmed_append {coefficient : Nat} (positive : coefficient ≠ 0) :
    ∃ d ds zeros, trimmed coefficient = d :: ds ∧ d ≠ 0 ∧
      Digits.ofNat coefficient = d :: ds ++ List.replicate zeros 0 := by
  obtain ⟨d, ds, digits, first⟩ := Digits.ofNat_head coefficient
  have zeros : (Digits.ofNat coefficient).reverse.takeWhile (· == 0) =
      List.replicate ((Digits.ofNat coefficient).reverse.takeWhile (· == 0)).length 0 :=
    List.eq_replicate_iff.2 ⟨rfl, fun a mem => by
      simpa using List.all_eq_true.1 List.all_takeWhile a mem⟩
  have parts : Digits.ofNat coefficient = trimmed coefficient ++
      List.replicate ((Digits.ofNat coefficient).reverse.takeWhile (· == 0)).length 0 := by
    rw [trimmed, ← List.reverse_replicate, ← zeros, ← List.reverse_append,
      List.takeWhile_append_dropWhile, List.reverse_reverse]
  cases same : trimmed coefficient with
  | nil =>
    rw [same, List.nil_append, digits] at parts
    have mem : d ∈ d :: ds := List.mem_cons_self
    rw [parts] at mem
    exact absurd (List.eq_of_mem_replicate mem) (first positive)
  | cons d' ds' =>
    rw [same] at parts
    refine ⟨d', ds', _, rfl, ?_, parts⟩
    rw [digits, List.cons_append] at parts
    rw [← (List.cons.inj parts).1]
    exact first positive

end QueryConsole.Decimal
