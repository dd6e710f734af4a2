import Mathlib.Data.List.TakeWhile
import QueryConsole.Text.Encoding
/-!
# UTF-8 is read back

Every text, surrogates included, is what its UTF-8 bytes are read as
(`decode_encode`), and one of scalar values is so by a reader that lets no
surrogate through (`decode_encode_of_isScalar`). The bytes of one code point
say how many they are, and none of them is zero unless the code point is,
which keeps the encoding of a body apart from the wider ones
(`decodeBody_encode`).
-/

namespace QueryConsole.Utf8

/-! ## The encoding of the library -/

/-- The bytes of a character are those that a string has for it. -/
theorem encodeValue_char (c : Char) : encodeValue c.toNat = String.utf8EncodeChar c := by
  have bound : c.toNat < 0x110000 := (CodePoint.scalar c).value_lt
  have same : c.val.toNat = c.toNat := rfl
  simp only [encodeValue, String.utf8EncodeChar, same]
  generalize c.toNat = n at bound
  split
  · rw [if_pos (show n ≤ 127 by omega)]
  · rw [if_neg (show ¬ n ≤ 127 by omega)]
    split
    · rw [if_pos (show n ≤ 2047 by omega), Nat.add_comm 0xC0, Nat.add_comm 0x80,
        Nat.mod_eq_of_lt (show n / 64 < 32 by omega)]
    · rw [if_neg (show ¬ n ≤ 2047 by omega)]
      split
      · rw [if_pos (show n ≤ 65535 by omega), Nat.add_comm 0xE0, Nat.add_comm 0x80,
          Nat.add_comm 0x80, Nat.mod_eq_of_lt (show n / 4096 < 16 by omega)]
      · rw [if_neg (show ¬ n ≤ 65535 by omega), Nat.add_comm 0xF0, Nat.add_comm 0x80,
          Nat.add_comm 0x80, Nat.add_comm 0x80, Nat.mod_eq_of_lt (show n / 262144 < 8 by omega)]

/-- **A text of characters is encoded as the string that it spells.** -/
theorem encode_ofString (s : String) : (encode (Text.ofString s)).toByteArray = s.toUTF8 := by
  have chars : encode (Text.ofString s) = s.toList.flatMap String.utf8EncodeChar := by
    rw [encode, Text.ofString, List.flatMap_map]
    exact congrArg (s.toList.flatMap ·) (funext encodeValue_char)
  rw [chars]
  exact String.utf8Encode_toList

/-! ## One byte -/

theorem toNat_byte {n : Nat} (h : n < 256) : (UInt8.ofNat n).toNat = n := by
  rw [UInt8.toNat_ofNat', Nat.mod_eq_of_lt h]

/-- A byte that carries six bits continues a sequence. -/
theorem isContinuation_byte (n : Nat) :
    isContinuation (UInt8.ofNat (0x80 + n % 64)) = true := by
  simp only [isContinuation, Bool.and_eq_true, decide_eq_true_eq, UInt8.le_iff_toNat_le,
    UInt8.lt_iff_toNat_lt, toNat_byte (show 0x80 + n % 64 < 256 by omega), UInt8.reduceToNat]
  omega

/-- The six bits that a byte carries. -/
theorem payload_byte (n : Nat) : payload (UInt8.ofNat (0x80 + n % 64)) = n % 64 := by
  rw [payload, toNat_byte (by omega)]
  omega

/-- The second byte of three is none that would be an overlong form, nor
one of a surrogate where these are not let through. -/
theorem mayFollowOfThree_byte {surrogates : Bool} {n : Nat} (large : 0x800 ≤ n)
    (small : n < 0x10000) (allowed : surrogates = true ∨ ¬ (0xD800 ≤ n ∧ n < 0xE000)) :
    mayFollowOfThree surrogates (UInt8.ofNat (0xE0 + n / 4096))
      (UInt8.ofNat (0x80 + n / 64 % 64)) = true := by
  simp only [mayFollowOfThree, isContinuation_byte, Bool.true_and, Bool.and_eq_true,
    Bool.not_eq_true', Bool.and_eq_false_iff, decide_eq_false_iff_not, UInt8.lt_iff_toNat_lt,
    UInt8.le_iff_toNat_le, ← UInt8.toNat_inj, toNat_byte (show 0xE0 + n / 4096 < 256 by omega),
    toNat_byte (show 0x80 + n / 64 % 64 < 256 by omega), UInt8.reduceToNat,
    Bool.not_eq_false']
  refine ⟨by omega, ?_⟩
  rcases allowed with through | scalar
  · exact .inr through
  · exact .inl (by omega)

/-- The second byte of four is none that would be an overlong form or
beyond the last code point. -/
theorem mayFollowOfFour_byte {n : Nat} (large : 0x10000 ≤ n) (bound : n < 0x110000) :
    mayFollowOfFour (UInt8.ofNat (0xF0 + n / 262144))
      (UInt8.ofNat (0x80 + n / 4096 % 64)) = true := by
  simp only [mayFollowOfFour, isContinuation_byte, Bool.true_and, Bool.and_eq_true,
    Bool.not_eq_true', Bool.and_eq_false_iff, decide_eq_false_iff_not, UInt8.lt_iff_toNat_lt,
    UInt8.le_iff_toNat_le, ← UInt8.toNat_inj, toNat_byte (show 0xF0 + n / 262144 < 256 by omega),
    toNat_byte (show 0x80 + n / 4096 % 64 < 256 by omega), UInt8.reduceToNat]
  omega

/-! ## One code point -/

/-- The number of a scalar value is none of a surrogate. -/
theorem value_not_surrogate {p : CodePoint} (scalar : p.isSurrogate = false) :
    ¬ (0xD800 ≤ p.value ∧ p.value < 0xE000) := by
  cases p with
  | scalar c => exact CodePoint.toNat_not_surrogate c
  | surrogate _ => simp [CodePoint.isSurrogate] at scalar

/-- The bytes of a code point are read as it, whatever follows them, if it
is let through. -/
theorem decode_encodeValue {surrogates : Bool} {p : CodePoint}
    (allowed : surrogates = true ∨ p.isSurrogate = false) (start : Nat) (bytes : Bytes) :
    decode surrogates start (encodeValue p.value ++ bytes) =
      (decode surrogates (start + (encodeValue p.value).length) bytes).map (p :: ·) := by
  have bound := p.value_lt
  have same : CodePoint.ofNat p.value = p := CodePoint.ofNat_value p
  replace allowed := allowed.imp_right value_not_surrogate
  generalize p.value = n at bound same allowed ⊢
  rw [encodeValue]
  split
  · next small =>
    rw [List.singleton_append, decode.eq_def]
    simp only [UInt8.lt_iff_toNat_lt, toNat_byte (show n < 256 by omega), UInt8.reduceToNat]
    rw [if_pos small, same]
    rfl
  · split
    · next large small =>
      have value : (0xC0 + n / 64) % 32 * 64 + n % 64 = n := by omega
      rw [List.cons_append, List.singleton_append, decode.eq_def]
      simp only [UInt8.lt_iff_toNat_lt, toNat_byte (show 0xC0 + n / 64 < 256 by omega),
        UInt8.reduceToNat, isContinuation_byte, payload_byte, if_true, value, same]
      rw [if_neg (by omega), if_neg (by omega), if_pos (by omega)]
      rfl
    · split
      · next large small =>
        have value :
            (0xE0 + n / 4096) % 16 * 4096 + n / 64 % 64 * 64 + n % 64 = n := by omega
        rw [List.cons_append, List.cons_append, List.singleton_append, decode.eq_def]
        simp only [UInt8.lt_iff_toNat_lt, toNat_byte (show 0xE0 + n / 4096 < 256 by omega),
          UInt8.reduceToNat, isContinuation_byte, payload_byte, if_true, value, same,
          mayFollowOfThree_byte (by omega) small allowed]
        rw [if_neg (by omega), if_neg (by omega), if_neg (by omega), if_pos (by omega)]
        rfl
      · next large =>
        have value : (0xF0 + n / 262144) % 8 * 262144 + n / 4096 % 64 * 4096 +
            n / 64 % 64 * 64 + n % 64 = n := by omega
        rw [List.cons_append, List.cons_append, List.cons_append, List.singleton_append,
          decode.eq_def]
        simp only [UInt8.lt_iff_toNat_lt, toNat_byte (show 0xF0 + n / 262144 < 256 by omega),
          UInt8.reduceToNat, isContinuation_byte, payload_byte, if_true, value, same,
          mayFollowOfFour_byte (by omega) bound]
        rw [if_neg (by omega), if_neg (by omega), if_neg (by omega), if_neg (by omega),
          if_pos (by omega)]
        rfl

/-- A text is read back if all of it is let through. -/
theorem decode_encode_of_allowed {surrogates : Bool} {t : Text}
    (allowed : ∀ p ∈ t, surrogates = true ∨ p.isSurrogate = false) (start : Nat) :
    decode surrogates start (encode t) = .ok t := by
  induction t generalizing start with
  | nil => rfl
  | cons p t ih =>
    rw [encode, List.flatMap_cons, decode_encodeValue (allowed p List.mem_cons_self)]
    rw [encode] at ih
    rw [ih fun q mem => allowed q (List.mem_cons_of_mem p mem)]
    rfl

/-- **UTF-8 is read back.** -/
theorem decode_encode (t : Text) (start : Nat) : decode true start (encode t) = .ok t :=
  decode_encode_of_allowed (fun _ _ => .inl rfl) start

/-- **And so it is strictly**, if no surrogate was written. -/
theorem decode_encode_of_isScalar {t : Text} (scalar : t.isScalar = true) (start : Nat) :
    decode false start (encode t) = .ok t :=
  decode_encode_of_allowed
    (fun p mem => .inr (by simpa using List.all_eq_true.1 scalar p mem)) start

/-- **What can be encoded is made of scalar values**, and the bytes are those
of the text. -/
theorem encodeScalars_eq_ok_iff {t : Text} {body : Bytes} :
    encodeScalars t = .ok body ↔ t.isScalar = true ∧ body = encode t := by
  have all : (t.dropWhile fun p => !p.isSurrogate) = [] ↔ t.isScalar = true := by
    rw [List.dropWhile_eq_nil_iff, Text.isScalar, List.all_eq_true]
  rw [encodeScalars]
  split
  · next none =>
    rw [all] at none
    simp [none, eq_comm]
  · next p rest some =>
    have lone : t.isScalar ≠ true := fun scalar => by simp [all.2 scalar] at some
    simp [lone]

/-! ## The encoding of a body -/

/-- Only the code point zero has a byte zero. -/
theorem encode_ne_zero {t : Text} (h : ∀ p ∈ t, p.value ≠ 0) : ∀ b ∈ encode t, b ≠ 0 := by
  have byte {n : Nat} (positive : n ≠ 0) (small : n < 256) : UInt8.ofNat n ≠ 0 := by
    intro zero
    have := congrArg UInt8.toNat zero
    rw [toNat_byte small] at this
    exact positive this
  intro b mem
  obtain ⟨p, hp, mem⟩ := List.mem_flatMap.1 mem
  have positive := h p hp
  have bound := p.value_lt
  rw [encodeValue] at mem
  split at mem
  · rw [List.mem_singleton.1 mem]
    exact byte positive (by omega)
  · split at mem
    · simp only [List.mem_cons, List.not_mem_nil, or_false] at mem
      rcases mem with rfl | rfl <;> exact byte (by omega) (by omega)
    · split at mem
      · simp only [List.mem_cons, List.not_mem_nil, or_false] at mem
        rcases mem with rfl | rfl | rfl <;> exact byte (by omega) (by omega)
      · simp only [List.mem_cons, List.not_mem_nil, or_false] at mem
        rcases mem with rfl | rfl | rfl | rfl <;> exact byte (by omega) (by omega)

/-- Bytes that begin with one of ASCII have no byte order mark. -/
theorem marked?_eq_none {b : UInt8} (bytes : Bytes) (positive : b ≠ 0) (ascii : b < 0x80) :
    Encoding.marked? (b :: bytes) = none := by
  have first : ∀ e : Encoding, ∃ m more, e.mark = m :: more ∧ (m = 0 ∨ ¬ m < 0x80) := by
    rintro (_ | ⟨_ | _⟩ | ⟨_ | _⟩) <;> exact ⟨_, _, rfl, by decide⟩
  refine List.find?_eq_none.2 fun e _ begins => ?_
  obtain ⟨rest, same⟩ := List.isPrefixOf_iff_prefix.1 begins
  obtain ⟨m, more, mark, other⟩ := first e
  rw [mark] at same
  obtain ⟨rfl, -⟩ := List.cons.inj same
  rcases other with zero | large
  · exact positive zero
  · exact large ascii

theorem unmarked_eq_utf8 {bytes : Bytes} (h : ∀ b ∈ bytes, b ≠ 0) :
    Encoding.unmarked bytes = .utf8 := by
  fun_cases Encoding.unmarked bytes <;> simp_all

/-- **A body in UTF-8 is read as it was written**, if it begins with a
character of ASCII and has none with the number zero. -/
theorem decodeBody_encode {c : CodePoint} {t : Text} (ascii : c.value < 0x80)
    (positive : ∀ p ∈ c :: t, p.value ≠ 0) : Encoding.decodeBody (encode (c :: t)) = .ok (c :: t) := by
  have bytes := encode_ne_zero positive
  have first : encode (c :: t) = UInt8.ofNat c.value :: encode t := by
    rw [encode, List.flatMap_cons, encodeValue, if_pos ascii]
    rfl
  have small : UInt8.ofNat c.value < 0x80 := by
    rw [UInt8.lt_iff_toNat_lt, toNat_byte (by omega)]
    exact ascii
  have unmarked : Encoding.marked? (encode (c :: t)) = none := by
    rw [first] at bytes ⊢
    exact marked?_eq_none _ (bytes _ List.mem_cons_self) small
  rw [Encoding.decodeBody, unmarked]
  simp only [unmarked_eq_utf8 bytes, Encoding.decode, decode_encode]

end QueryConsole.Utf8
