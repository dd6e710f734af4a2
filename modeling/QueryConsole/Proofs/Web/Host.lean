import QueryConsole.Web.Address
/-!
# Hosts as they are written

What the written form of a host may hold. A name in ASCII keeps out of
everything that ends the place of a host (`Domain.isDelimiter_of_ofText?`),
because every label does, also one in Punycode: that is made of what the label
has and of digits and hyphens (`Punycode.forall_encode`). So a host that is
read is written as one again (`Host.isWritten_of_parse`): it is not empty, and
it has a colon only between brackets. `Host.parse_of_label` is for hosts of one
label.
-/

namespace QueryConsole

/-- What holds of the code points of a separator and of texts holds of the
texts with the separator between them. -/
theorem Text.forall_intercalate {P : CodePoint → Prop} {separator : Text} {ts : List Text}
    (between : ∀ p ∈ separator, P p) (each : ∀ t ∈ ts, ∀ p ∈ t, P p) :
    ∀ p ∈ Text.intercalate separator ts, P p := by
  induction ts with
  | nil => simp [Text.intercalate]
  | cons t ts ih =>
    rw [List.forall_mem_cons] at each
    cases ts with
    | nil => exact each.1
    | cons u ts =>
      have parts : Text.intercalate separator (t :: u :: ts) =
          t ++ separator ++ Text.intercalate separator (u :: ts) := rfl
      simp only [parts, List.mem_append]
      rintro p ((own | own) | own)
      · exact each.1 p own
      · exact between p own
      · exact ih each.2 p own

namespace Web

/-! ## Punycode -/

namespace Punycode

variable {P : CodePoint → Prop}

theorem threshold_bounds (k bias : Nat) : 1 ≤ threshold k bias ∧ threshold k bias ≤ 26 := by
  rw [threshold]
  split
  · omega
  · split <;> omega

theorem forall_writeNumber (digits : ∀ n < base, P (digit n)) (bias k fuel n : Nat) :
    ∀ p ∈ writeNumber bias k fuel n, P p := by
  induction fuel generalizing k n with
  | zero => simp [writeNumber]
  | succ fuel ih =>
    obtain ⟨positive, small⟩ := threshold_bounds k bias
    rw [writeNumber]
    split
    · next last =>
      rw [List.forall_mem_singleton]
      exact digits n (by rw [base]; omega)
    · -- a digit before the last is the threshold and a remainder, which is below the base
      rw [List.forall_mem_cons]
      refine ⟨digits _ ?_, ih _ _⟩
      have : (n - threshold k bias) % (base - threshold k bias) < base - threshold k bias :=
        Nat.mod_lt _ (by rw [base]; omega)
      omega

theorem forall_encodeRound (digits : ∀ n < base, P (digit n)) (basic n : Nat) (label : Text)
    {p : Progress} (before : ∀ c ∈ p.output, P c) :
    ∀ c ∈ (encodeRound basic n label p).output, P c := by
  rw [encodeRound]
  induction label generalizing p with
  | nil => exact before
  | cons c label ih =>
    rw [List.foldl_cons]
    refine ih ?_
    split
    · exact before
    · split
      · simp only [List.mem_append]
        rintro q (own | own)
        · exact before q own
        · exact forall_writeNumber digits _ _ _ _ q own
      · exact before

theorem forall_encodeFrom (digits : ∀ n < base, P (digit n)) (basic : Nat) (label : Text)
    (fuel n : Nat) {p : Progress} (before : ∀ c ∈ p.output, P c) :
    ∀ c ∈ encodeFrom basic label fuel n p, P c := by
  induction fuel generalizing n p with
  | zero => exact before
  | succ fuel ih =>
    rw [encodeFrom]
    split
    · exact before
    · exact ih _ (forall_encodeRound digits _ _ _ before)

/-- **The ASCII form of a label** has the label's own code points, digits, and
a hyphen. -/
theorem forall_encode (digits : ∀ n < base, P (digit n)) (hyphen : P (.scalar '-')) {label : Text}
    (own : ∀ p ∈ label, P p) : ∀ p ∈ encode label, P p := by
  refine forall_encodeFrom digits _ _ _ _ ?_
  have ascii : ∀ p ∈ label.filter fun p => p.value < 128, P p :=
    fun p mem => own p (List.mem_filter.1 mem).1
  dsimp only
  split
  · simp
  · simp only [List.mem_append, Text.ofChar, List.mem_singleton]
    rintro p (mem | rfl)
    · exact ascii p mem
    · exact hyphen

end Punycode

/-! ## Names -/

/-- No label holds a delimiter. -/
theorem Label.isDelimiter_of_ofText? {t : Text} {l : Label} (read : ofText? t = some l) :
    ∀ p ∈ l.ascii, Domain.isDelimiter p = false := by
  rw [ofText?] at read
  split at read
  · simp at read
  · next none =>
    have own : ∀ p ∈ t, Domain.isDelimiter p = false := by simpa using none
    split at read
    · obtain ⟨plain, -, rfl⟩ := Option.map_eq_some_iff.1 read
      exact own
    · split at read
      · obtain rfl := Option.some.inj read
        exact own
      · split at read
        · obtain rfl := Option.some.inj read
          have digits : ∀ n < Punycode.base, Domain.isDelimiter (Punycode.digit n) = false := by
            decide
          simp only [List.mem_append]
          rintro p (mem | mem)
          · revert p
            decide
          · exact Punycode.forall_encode (P := fun p => Domain.isDelimiter p = false) digits
              (by decide) own p mem
        · simp at read

/-- What a reader makes of the members of a list is made of one of them. -/
theorem exists_of_mapM {α β : Type} {f : α → Option β} {l : List α} {made : List β}
    (read : l.mapM f = some made) : ∀ b ∈ made, ∃ a ∈ l, f a = some b := by
  induction l generalizing made with
  | nil =>
    obtain rfl : [] = made := Option.some.inj read
    simp
  | cons a l ih =>
    rw [List.mapM_cons] at read
    obtain ⟨b, first, read⟩ := Option.bind_eq_some_iff.1 read
    obtain ⟨made', rest, same⟩ := Option.bind_eq_some_iff.1 read
    obtain rfl : b :: made' = made := Option.some.inj same
    rw [List.forall_mem_cons]
    refine ⟨⟨a, List.mem_cons_self, first⟩, fun b' mem => ?_⟩
    obtain ⟨a', own, made⟩ := ih rest b' mem
    exact ⟨a', List.mem_cons_of_mem a own, made⟩

/-- **No name in ASCII holds a delimiter.** -/
theorem Domain.isDelimiter_of_ofText? {t name : Text} (read : ofText? t = some name) :
    ∀ p ∈ name, isDelimiter p = false := by
  rw [ofText?] at read
  split at read
  · simp at read
  · split at read
    · simp at read
    · next labels found =>
      split at read
      · simp at read
      · obtain rfl := Option.some.inj read
        refine Text.forall_intercalate (by decide) fun ascii mem => ?_
        obtain ⟨l, own, rfl⟩ := List.mem_map.1 mem
        rw [labels?] at found
        split at found
        · simp at found
        · obtain ⟨t, -, read⟩ := exists_of_mapM found l own
          exact Label.isDelimiter_of_ofText? read

/-! ## Hosts -/

/-- What ends the place of a host, or stands between it and a user. -/
def endsHost (p : CodePoint) : Bool :=
  (Text.ofString "/?#@\\").contains p

/-- **A host as it is written in an address**: it is not empty, nothing in it
ends it, and it has a colon only between brackets. -/
structure Host.IsWritten (t : Text) : Prop where
  nonempty : t ≠ []
  within : ∀ p ∈ t, endsHost p = false
  colons : .scalar ':' ∈ t → ∃ inner : Text, t = "[" ++ inner ++ "]"

namespace Ipv4

theorem forall_text {P : CodePoint → Prop} (digits : ∀ d : Digit, P (Digits.codePoint d))
    (point : P (.scalar '.')) (n : Nat) : ∀ p ∈ text n, P p := by
  refine Text.forall_intercalate (by simpa [Text.ofString] using point) fun t mem => ?_
  obtain ⟨i, -, rfl⟩ := List.mem_map.1 mem
  intro p own
  obtain ⟨d, -, rfl⟩ := List.mem_map.1 own
  exact digits d

end Ipv4

namespace Ipv6

theorem forall_hex {P : CodePoint → Prop} (digits : ∀ n < 16, P (Text.hexDigit n)) (width n : Nat) :
    ∀ p ∈ Text.hex width n, P p := by
  induction width generalizing n with
  | zero => simp [Text.hex]
  | succ width ih =>
    simp only [Text.hex, List.mem_append, List.mem_singleton]
    rintro p (own | rfl)
    · exact ih _ p own
    · exact digits _ (Nat.mod_lt _ (by decide))

theorem forall_text {P : CodePoint → Prop} (digits : ∀ n < 16, P (Text.hexDigit n))
    (colon : P (.scalar ':')) (pieces : List Nat) : ∀ p ∈ text pieces, P p := by
  have joined (ns : List Nat) : ∀ p ∈ Text.intercalate ":" (ns.map pieceText), P p := by
    refine Text.forall_intercalate (by simpa [Text.ofString] using colon) fun t mem => ?_
    obtain ⟨n, -, rfl⟩ := List.mem_map.1 mem
    exact forall_hex digits _ n
  have gap : ∀ p ∈ Text.ofString "::", P p := by simpa [Text.ofString] using colon
  rw [text]
  obtain ⟨start, count⟩ := longestRun pieces
  dsimp only
  split
  · exact joined _
  · simp only [List.mem_append]
    rintro p ((own | own) | own)
    · exact joined _ p own
    · exact gap p own
    · exact joined _ p own

end Ipv6

theorem endsHost_of_isDelimiter {p : CodePoint} (h : Domain.isDelimiter p = false) :
    endsHost p = false ∧ p ≠ .scalar ':' := by
  have ends : ∀ q ∈ Text.ofString "/?#@\\", Domain.isDelimiter q = true := by decide
  have colon : Domain.isDelimiter (.scalar ':') = true := by decide
  refine ⟨Bool.eq_false_iff.2 fun own => ?_, fun own => ?_⟩
  · rw [ends p (List.contains_iff_mem.1 own)] at h
    simp at h
  · rw [own, colon] at h
    simp at h

/-- A text in which nothing ends the host and no colon is. -/
theorem Host.isWritten_of_plain {t : Text} (nonempty : t ≠ [])
    (plain : ∀ p ∈ t, endsHost p = false ∧ p ≠ .scalar ':') : Host.IsWritten t :=
  ⟨nonempty, fun p mem => (plain p mem).1, fun colon => absurd rfl (plain _ colon).2⟩

/-- A name that is read is a name in ASCII, and not empty. -/
theorem Host.ofText?_of_parse {t name : Text} (read : Host.parse t = .ok (.domain name)) :
    Domain.ofText? t = some name ∧ name ≠ [] := by
  rw [Host.parse.eq_def] at read
  split at read
  · split at read
    · next rest _ => cases h : Ipv6.parse rest.dropLast <;> simp [h, Except.map] at read
    · simp at read
  · cases found : Domain.ofText? t with
    | none => simp [found, throw, throwThe, MonadExceptOf.throw] at read
    | some name' =>
      rw [found] at read
      cases name' with
      | nil => simp [throw, throwThe, MonadExceptOf.throw, bind, Except.bind] at read
      | cons p rest =>
        simp only [List.isEmpty_cons, bind, Except.bind, Bool.false_eq_true, if_false] at read
        split at read
        · cases h : Ipv4.parse (p :: rest) <;> simp [h, Except.map] at read
        · obtain rfl : p :: rest = name := Host.domain.inj (Except.ok.inj read)
          exact ⟨rfl, List.cons_ne_nil _ _⟩

/-- **A host that is read is written as one.** -/
theorem Host.isWritten_of_parse {t : Text} {h : Host} (read : Host.parse t = .ok h) :
    Host.IsWritten h.text := by
  cases h with
  | domain name =>
    obtain ⟨name_eq, nonempty⟩ := Host.ofText?_of_parse read
    exact Host.isWritten_of_plain nonempty fun p mem =>
      endsHost_of_isDelimiter (Domain.isDelimiter_of_ofText? name_eq p mem)
  | ipv4 number =>
    refine Host.isWritten_of_plain ?_
      (Ipv4.forall_text (P := fun p => endsHost p = false ∧ p ≠ .scalar ':') (by decide)
        (by decide) number)
    simp [Host.text, Ipv4.text, Text.intercalate, Text.ofString]
  | ipv6 pieces =>
    have inner : ∀ p ∈ Ipv6.text pieces, endsHost p = false :=
      Ipv6.forall_text (P := fun p => endsHost p = false) (by decide) (by decide) pieces
    refine ⟨by simp [Host.text, Text.ofChar], ?_, fun _ => ⟨_, rfl⟩⟩
    simp only [Host.text, Text.ofChar, List.mem_append, List.mem_singleton]
    rintro p ((rfl | own) | rfl)
    · decide
    · exact inner p own
    · decide

/-- A name that is one label in ASCII, and no number, is a host as it stands. -/
theorem Host.parse_of_label {t : Text} (text : Utf8.decode false 0 (decode t) = .ok t)
    (labels : Domain.labels? t = some [⟨t, t⟩]) (oneWay : t.any Label.turns = false)
    (bare : t.head? ≠ some (.scalar '[')) (nonempty : t.isEmpty = false)
    (name : Ipv4.isMeant t = false) : Host.parse t = .ok (.domain t) := by
  have domain : Domain.ofText? t = some t := by
    simp only [Domain.ofText?, text, labels, List.any_cons, oneWay, List.any_nil, Bool.or_false,
      Bool.false_and, Bool.false_eq_true, if_false, List.map_cons, List.map_nil, Text.intercalate]
  rw [Host.parse.eq_def]
  split
  · exact absurd rfl bare
  · simp only [domain, bind, Except.bind, nonempty, name]
    rfl

end Web

end QueryConsole
