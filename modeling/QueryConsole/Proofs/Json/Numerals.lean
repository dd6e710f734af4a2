import QueryConsole.Proofs.Json.Grammar
import QueryConsole.Proofs.Number.Digits
/-!
# Numerals of the grammar are what is read as numerals

The reader takes the longest numeral and looks at nothing that follows it.
So what it takes is a numeral of the grammar (`numeral?_sound`), and a
numeral is taken whole where something follows it that could not continue
it (`numeral?_complete`). Such are the texts that may follow a value in a
document (`Follows`).
-/

namespace QueryConsole.Json.Reader

open Grammar Numeral

/-- A text that may follow a value: nothing, a blank, a comma or a closing
bracket. -/
def Follows (t : Text) : Prop :=
  ∀ p, t.head? = some p → p ∈ Text.ofString " \t\n\r,]\x7d"

/-- A text that does not continue a numeral. -/
def Ends (t : Text) : Prop :=
  ∀ p, t.head? = some p → Digits.digit? p = none ∧ p ∉ Text.ofString ".eE"

theorem Follows.ends {t : Text} (h : Follows t) : Ends t := by
  have all : ∀ p ∈ Text.ofString " \t\n\r,]\x7d",
      Digits.digit? p = none ∧ p ∉ Text.ofString ".eE" := by decide
  exact fun p first => all p (h p first)

theorem Ends.noDigit {t : Text} (h : Ends t) : Digits.NoDigit t :=
  fun p first => (h p first).1

/-! ## What is taken is a numeral -/

theorem readMinus_sound (t : Text) :
    ∃ m, t = m ++ (readMinus t).2 ∧ Minus m (readMinus t).1 := by
  fun_cases readMinus t with
  | case1 t => exact ⟨[.scalar '-'], rfl, .minus⟩
  | case2 t => exact ⟨[], rfl, .absent⟩

theorem readSign_sound (t : Text) :
    ∃ s, t = s ++ (readSign t).2 ∧ Sign s (readSign t).1 := by
  fun_cases readSign t with
  | case1 t => exact ⟨[.scalar '-'], rfl, .minus⟩
  | case2 t => exact ⟨[.scalar '+'], rfl, .plus⟩
  | case3 t => exact ⟨[], rfl, .absent⟩

theorem wholeDigits?_sound {t rest : Text} {ds : List Digit}
    (h : wholeDigits? t = some (ds, rest)) : t = ds.map Digits.codePoint ++ rest ∧ Whole ds := by
  rw [wholeDigits?] at h
  split at h
  · simp at h
  · next d ds' rest' read =>
    obtain ⟨rfl, -⟩ := Digits.span_sound read
    split at h
    · next zero =>
      obtain ⟨rfl, rfl⟩ := Prod.mk.inj (Option.some.inj h)
      exact ⟨by rw [zero]; rfl, .zero⟩
    · next positive =>
      obtain ⟨rfl, rfl⟩ := Prod.mk.inj (Option.some.inj h)
      exact ⟨rfl, .positive positive⟩

theorem readFraction_sound (t : Text) :
    ∃ f, t = f ++ (readFraction t).2 ∧ Fraction f (readFraction t).1 := by
  fun_cases readFraction t with
  | case1 t rest read => exact ⟨[], rfl, .absent⟩
  | case2 t ds rest read digits =>
    obtain ⟨rfl, -⟩ := Digits.span_sound digits
    exact ⟨_, rfl, .present read⟩
  | case3 t => exact ⟨[], rfl, .absent⟩

theorem readExponent_sound (t : Text) :
    ∃ x, t = x ++ (readExponent t).2 ∧ Exponent x (readExponent t).1 := by
  fun_cases readExponent t with
  | case1 => exact ⟨[], rfl, .absent⟩
  | case2 p t mark negative digits sign rest read => exact ⟨[], rfl, .absent⟩
  | case3 p t mark negative digits sign ds rest nonempty read =>
    obtain ⟨s, same, hs⟩ := readSign_sound t
    obtain ⟨same', -⟩ := Digits.span_sound read
    rw [sign] at same hs
    refine ⟨p :: (s ++ ds.map Digits.codePoint), ?_, .present mark hs nonempty⟩
    rw [List.cons_append, List.append_assoc, ← same', ← same]
  | case4 p t mark => exact ⟨[], rfl, .absent⟩

/-- The numeral at the beginning of a text, by its four parts. -/
theorem numeral?_eq (t : Text) :
    numeral? t = (wholeDigits? (readMinus t).2).map fun w =>
      (⟨(readMinus t).1, w.1, (readFraction w.2).1, (readExponent (readFraction w.2).2).1⟩,
        (readExponent (readFraction w.2).2).2) := rfl

/-- **What is taken as a numeral is one.** -/
theorem numeral?_sound {t rest : Text} {n : Numeral} (h : numeral? t = some (n, rest)) :
    ∃ u, t = u ++ rest ∧ Number u n := by
  rw [numeral?_eq] at h
  obtain ⟨⟨whole, t'⟩, hw, read⟩ := Option.map_eq_some_iff.1 h
  obtain ⟨m, minus, hm⟩ := readMinus_sound t
  obtain ⟨digits, hwhole⟩ := wholeDigits?_sound hw
  obtain ⟨f, fraction, hf⟩ := readFraction_sound t'
  obtain ⟨x, exponent, hx⟩ := readExponent_sound (readFraction t').2
  simp only [Prod.mk.injEq] at read
  obtain ⟨rfl, rfl⟩ := read
  refine ⟨_, ?_, .mk hm hwhole hf hx⟩
  simp only [List.append_assoc]
  rw [← exponent, ← fraction, ← digits, ← minus]

/-! ## A numeral is taken whole -/

theorem exists_cons_of_whole {ds : List Digit} (h : Whole ds) : ∃ d es, ds = d :: es := by
  cases h with
  | zero => exact ⟨0, [], rfl⟩
  | positive _ => exact ⟨_, _, rfl⟩

/-- A code point that is a digit is none of the marks in a numeral. -/
theorem codePoint_ne (d : Digit) : Digits.codePoint d ∉ Text.ofString "-+.eE" := by
  revert d
  decide

theorem readMinus_append {m t : Text} {negative : Bool} (h : Minus m negative)
    (digit : t.head? ≠ some (.scalar '-')) : readMinus (m ++ t) = (negative, t) := by
  cases h with
  | minus => rfl
  | absent =>
    rw [List.nil_append, readMinus.eq_def]
    split
    · exact absurd rfl digit
    · rfl

theorem readSign_append {s t : Text} {negative : Bool} (h : Sign s negative)
    (digit : ∀ p, t.head? = some p → p ∉ Text.ofString "-+") :
    readSign (s ++ t) = (negative, t) := by
  cases h with
  | plus => rfl
  | minus => rfl
  | absent =>
    rw [List.nil_append, readSign.eq_def]
    split
    · exact absurd (by decide) (digit _ rfl)
    · exact absurd (by decide) (digit _ rfl)
    · rfl

theorem wholeDigits?_append {ds : List Digit} {t : Text} (h : Whole ds) (ends : Digits.NoDigit t) :
    wholeDigits? (ds.map Digits.codePoint ++ t) = some (ds, t) := by
  rw [wholeDigits?, Digits.span_map ds ends]
  cases h with
  | zero => rfl
  | positive positive => exact if_neg positive

theorem readFraction_append {f t : Text} {ds : List Digit} (h : Fraction f ds)
    (ends : Digits.NoDigit t) (point : t.head? ≠ some (.scalar '.')) :
    readFraction (f ++ t) = (ds, t) := by
  cases h with
  | absent =>
    rw [List.nil_append, readFraction.eq_def]
    split
    · exact absurd rfl point
    · rfl
  | present nonempty =>
    obtain ⟨d, ds, rfl⟩ := List.exists_cons_of_ne_nil nonempty
    rw [List.cons_append, readFraction, Digits.span_map _ ends]

theorem readExponent_append {x t : Text} {v : Option Int} (h : Exponent x v) (ends : Ends t) :
    readExponent (x ++ t) = (v, t) := by
  cases h with
  | absent =>
    cases t with
    | nil => rfl
    | cons p t =>
      have other := (ends p rfl).2
      rw [List.nil_append, readExponent, if_neg]
      rintro (rfl | rfl)
      · exact other (by decide)
      · exact other (by decide)
  | @present mark s negative ds marked sign nonempty =>
    obtain ⟨d, ds, rfl⟩ := List.exists_cons_of_ne_nil nonempty
    have digit : ∀ p, ((d :: ds).map Digits.codePoint ++ t).head? = some p →
        p ∉ Text.ofString "-+" := by
      rintro p ⟨⟩ marks
      exact codePoint_ne d (List.mem_append_left (Text.ofString ".eE") marks)
    rw [List.cons_append, List.append_assoc, readExponent, if_pos marked,
      readSign_append sign digit]
    simp only [Digits.span_map _ ends.noDigit]

/-- What comes after the digits of a number does not go on with digits. -/
theorem Ends.exponent {x t : Text} {v : Option Int} (h : Exponent x v) (ends : Ends t) :
    Digits.NoDigit (x ++ t) ∧ (x ++ t).head? ≠ some (.scalar '.') := by
  cases h with
  | absent =>
    refine ⟨ends.noDigit, fun point => (ends _ point).2 (by decide)⟩
  | present marked _ _ =>
    rcases marked with rfl | rfl
    · exact ⟨by rintro p ⟨⟩; rfl, by rintro ⟨⟩⟩
    · exact ⟨by rintro p ⟨⟩; rfl, by rintro ⟨⟩⟩

theorem noDigit_fraction {f t : Text} {ds : List Digit} (h : Fraction f ds)
    (ends : Digits.NoDigit t) : Digits.NoDigit (f ++ t) := by
  cases h with
  | absent => exact ends
  | present _ => rintro p ⟨⟩; rfl

/-- **A numeral is taken whole** where what follows does not continue it. -/
theorem numeral?_complete {u t : Text} {n : Numeral} (h : Number u n) (ends : Ends t) :
    numeral? (u ++ t) = some (n, t) := by
  cases h with
  | @mk m f x negative whole fraction exponent hm hwhole hf hx =>
    obtain ⟨noDigit, noPoint⟩ := ends.exponent hx
    have digit : (whole.map Digits.codePoint ++ (f ++ (x ++ t))).head? ≠
        some (.scalar '-') := by
      obtain ⟨d, ds, rfl⟩ := exists_cons_of_whole hwhole
      intro minus
      refine codePoint_ne d ?_
      rw [Option.some.inj minus]
      decide
    rw [numeral?_eq]
    simp only [List.append_assoc]
    rw [readMinus_append hm digit, wholeDigits?_append hwhole (noDigit_fraction hf noDigit),
      Option.map_some, readFraction_append hf noDigit noPoint, readExponent_append hx ends]

/-! ## The number that a numeral writes -/

/-- The value of a numeral is the one that the grammar gives it. -/
theorem number_eq_ok_iff {n : Numeral} {v : Json} : number n = .ok v ↔ Amount n v := by
  have integer : n.isInteger = true ↔ n.fraction = [] ∧ n.exponent = none := by
    simp [isInteger]
  rw [number]
  refine ⟨fun read => ?_, fun amount => ?_⟩
  · split at read
    · next whole =>
      obtain ⟨fraction, exponent⟩ := integer.1 whole
      split at read
      · simp at read
      · next short =>
        rw [← Except.ok.inj read]
        exact .integer fraction exponent (Nat.le_of_not_lt short)
    · next part =>
      rw [← Except.ok.inj read]
      refine .float ?_
      rwa [integer, Decidable.not_and_iff_not_or_not] at part
  · cases amount with
    | integer fraction exponent short =>
      have fits : ¬ maxIntegerDigits < n.whole.length := Nat.not_lt.2 short
      rw [if_pos (integer.2 ⟨fraction, exponent⟩), if_neg fits]
    | float part =>
      rw [if_neg]
      rwa [integer, Decidable.not_and_iff_not_or_not]

end QueryConsole.Json.Reader
