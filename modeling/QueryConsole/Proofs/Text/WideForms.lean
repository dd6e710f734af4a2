import QueryConsole.Proofs.Text.Utf8
/-!
# Every encoding form is read back

The bytes of a unit, of two or of four, make its number again, in either
order (`Utf16.unit_unitBytes`, `Utf32.unit_encodeValue`). A text of scalar
values is therefore what its bytes are read as, in all five forms
(`Encoding.decode_encode`): in UTF-16 the two units of a pair are joined
after the units have been read.

Which form a body is in is told by its mark or by the zeros among its first
four bytes. Where a text begins with a character of ASCII and has no code
point zero, no form is taken for another (`Encoding.unmarked_encode`,
`Encoding.marked?_mark_append`), and a body is read as the text that was
written, with or without the mark (`Encoding.decodeBody_of_written`).
-/

namespace QueryConsole

/-! ## Units of two bytes -/

namespace Utf16

/-- The two bytes of a unit make it again. -/
theorem unit_unitBytes (order : ByteOrder) {n : Nat} (small : n < 0x10000) :
    ∃ b0 b1, unitBytes order n = [b0, b1] ∧ unit order b0 b1 = n := by
  have high : (UInt8.ofNat (n / 256)).toNat = n / 256 := Utf8.toNat_byte (by omega)
  have low : (UInt8.ofNat (n % 256)).toNat = n % 256 := Utf8.toNat_byte (by omega)
  cases order with
  | little => exact ⟨_, _, rfl, by simp only [unit, high, low]; omega⟩
  | big => exact ⟨_, _, rfl, by simp only [unit, high, low]; omega⟩

theorem units_unitBytes (order : ByteOrder) {n : Nat} (small : n < 0x10000) (start : Nat)
    (bytes : Bytes) :
    units order start (unitBytes order n ++ bytes) =
      (units order (start + 2) bytes).map (CodePoint.ofNat n :: ·) := by
  obtain ⟨b0, b1, split, made⟩ := unit_unitBytes order small
  rw [split, List.cons_append, List.singleton_append, units, made]

/-- The units of a code point: itself, or beyond the first 65536 the two
surrogates that stand for it. -/
def halves (p : CodePoint) : Text :=
  if p.value < 0x10000 then [p]
  else [CodePoint.ofNat (0xD800 + (p.value - 0x10000) / 1024),
    CodePoint.ofNat (0xDC00 + (p.value - 0x10000) % 1024)]

/-- The bytes of a code point are read as its units, whatever follows. -/
theorem units_encodeValue (order : ByteOrder) (p : CodePoint) (start : Nat) (bytes : Bytes) :
    ∃ next, units order start (encodeValue order p.value ++ bytes) =
      (units order next bytes).map (halves p ++ ·) := by
  have bound := p.value_lt
  unfold encodeValue halves
  split
  · next small =>
    refine ⟨start + 2, ?_⟩
    rw [units_unitBytes order small, CodePoint.ofNat_value]
    rfl
  · refine ⟨start + 2 + 2, ?_⟩
    rw [List.append_assoc, units_unitBytes order (by omega), units_unitBytes order (by omega)]
    cases units order (start + 2 + 2) bytes <;> rfl

/-- The surrogate with a given number. -/
theorem ofNat_surrogate {n : Nat} (h : 0xD800 ≤ n ∧ n < 0xE000) (bound : n - 0xD800 < 0x800) :
    CodePoint.ofNat n = .surrogate ⟨n - 0xD800, bound⟩ := by
  unfold CodePoint.ofNat CodePoint.ofNat?
  rw [dif_pos h, Option.getD_some]

/-- The units of a scalar value are joined to it again. -/
theorem joinPairs_halves {p : CodePoint} (scalar : p.isSurrogate = false) (t : Text) :
    Text.joinPairs (halves p ++ t) = p :: Text.joinPairs t := by
  have bound := p.value_lt
  unfold halves
  split
  · -- A scalar value begins no pair.
    have alone : ∀ q, CodePoint.ofPair? p q = none := by
      intro q
      cases p with
      | scalar c => rfl
      | surrogate offset => simp [CodePoint.isSurrogate] at scalar
    cases t with
    | nil => rfl
    | cons q t => rw [List.singleton_append, Text.joinPairs, alone]
  · next large =>
    have value : 0x10000 + (0xD800 + (p.value - 0x10000) / 1024 - 0xD800) * 1024 +
        (0xDC00 + (p.value - 0x10000) % 1024 - 0xD800 - 1024) = p.value := by omega
    rw [List.cons_append, List.singleton_append, Text.joinPairs,
      ofNat_surrogate (by omega) (by omega), ofNat_surrogate (by omega) (by omega),
      CodePoint.ofPair?]
    simp only
    rw [if_pos (by constructor <;> omega), value, CodePoint.ofNat_value]

/-- The bytes of a text are read as the units of its code points. -/
theorem units_encode (order : ByteOrder) (t : Text) (start : Nat) :
    units order start (t.flatMap fun p => encodeValue order p.value) = .ok (t.flatMap halves) := by
  induction t generalizing start with
  | nil => rfl
  | cons p t ih =>
    rw [List.flatMap_cons, List.flatMap_cons]
    obtain ⟨next, read⟩ := units_encodeValue order p start
      (t.flatMap fun p => encodeValue order p.value)
    rw [read, ih]
    rfl

theorem joinPairs_units {t : Text} (scalar : t.isScalar = true) :
    Text.joinPairs (t.flatMap halves) = t := by
  induction t with
  | nil => rfl
  | cons p t ih =>
    obtain ⟨first, rest⟩ := List.forall_mem_cons.1 (List.all_eq_true.1 scalar)
    rw [List.flatMap_cons, joinPairs_halves (by simpa using first),
      ih (List.all_eq_true.2 rest)]

/-- The bytes of a code point that is not zero begin with two that are not
both zero. -/
theorem encodeValue_begins (order : ByteOrder) {p : CodePoint} (positive : p.value ≠ 0) :
    ∃ b0 b1 more, encodeValue order p.value = b0 :: b1 :: more ∧ ¬ (b0 = 0 ∧ b1 = 0) := by
  have begins : ∀ n < 0x10000, n ≠ 0 →
      ∃ b0 b1, unitBytes order n = [b0, b1] ∧ ¬ (b0 = 0 ∧ b1 = 0) := by
    intro n small positive
    obtain ⟨b0, b1, split, made⟩ := unit_unitBytes order small
    refine ⟨b0, b1, split, ?_⟩
    rintro ⟨rfl, rfl⟩
    cases order <;> exact positive made.symm
  have bound := p.value_lt
  unfold encodeValue
  split
  · next small =>
    obtain ⟨b0, b1, split, other⟩ := begins p.value small positive
    exact ⟨b0, b1, [], split, other⟩
  · obtain ⟨b0, b1, split, other⟩ :=
      begins (0xD800 + (p.value - 0x10000) / 1024) (by omega) (by omega)
    exact ⟨b0, b1, _, by rw [split]; rfl, other⟩

end Utf16

/-! ## Units of four bytes -/

namespace Utf32

/-- The four bytes of a number make it again. -/
theorem unit_encodeValue (order : ByteOrder) {n : Nat} (small : n < 0x110000) :
    ∃ b0 b1 b2 b3, encodeValue order n = [b0, b1, b2, b3] ∧ unit order b0 b1 b2 b3 = n := by
  have h3 : (UInt8.ofNat (n / 16777216)).toNat = n / 16777216 := Utf8.toNat_byte (by omega)
  have h2 : (UInt8.ofNat (n / 65536 % 256)).toNat = n / 65536 % 256 := Utf8.toNat_byte (by omega)
  have h1 : (UInt8.ofNat (n / 256 % 256)).toNat = n / 256 % 256 := Utf8.toNat_byte (by omega)
  have h0 : (UInt8.ofNat (n % 256)).toNat = n % 256 := Utf8.toNat_byte (by omega)
  cases order with
  | little => exact ⟨_, _, _, _, rfl, by simp only [unit, h0, h1, h2, h3]; omega⟩
  | big => exact ⟨_, _, _, _, rfl, by simp only [unit, h0, h1, h2, h3]; omega⟩

/-- A text is read back, surrogates included. -/
theorem decode_encode (order : ByteOrder) (t : Text) (start : Nat) :
    decode order start (t.flatMap fun p => encodeValue order p.value) = .ok t := by
  induction t generalizing start with
  | nil => rfl
  | cons p t ih =>
    obtain ⟨b0, b1, b2, b3, split, made⟩ := unit_encodeValue order p.value_lt
    rw [List.flatMap_cons, split]
    simp only [List.cons_append, List.nil_append, decode, made, CodePoint.ofNat?_value, ih]
    rfl

end Utf32

/-! ## All five forms -/

namespace Encoding

/-- **Every form is read back**, if no surrogate was written. -/
theorem decode_encode (e : Encoding) {t : Text} (scalar : t.isScalar = true) (start : Nat) :
    e.decode start (e.encode t) = .ok t := by
  cases e with
  | utf8 => exact Utf8.decode_encode t start
  | utf16 order =>
    rw [decode, encode, Utf16.units_encode]
    exact congrArg Except.ok (Utf16.joinPairs_units scalar)
  | utf32 order => exact Utf32.decode_encode order t start

/-! ## Which form a body is in -/

/-- The bytes of a form that the character of ASCII with the byte `b` is
written in. -/
def asciiBytes (b : UInt8) : Encoding → Bytes
  | utf8 => [b]
  | utf16 .little => [b, 0]
  | utf16 .big => [0, b]
  | utf32 .little => [b, 0, 0, 0]
  | utf32 .big => [0, 0, 0, b]

theorem encode_ascii {c : CodePoint} (ascii : c.value < 0x80) (e : Encoding) (t : Text) :
    e.encode (c :: t) = asciiBytes (UInt8.ofNat c.value) e ++ e.encode t := by
  have small : c.value < 0x10000 := by omega
  have low : c.value % 256 = c.value := by omega
  have high : c.value / 256 = 0 ∧ c.value / 65536 = 0 ∧ c.value / 16777216 = 0 := by omega
  rcases e with _ | ⟨_ | _⟩ | ⟨_ | _⟩ <;>
    simp [encode, asciiBytes, Utf8.encode, Utf8.encodeValue, Utf16.encodeValue, Utf16.unitBytes,
      Utf32.encodeValue, ascii, small, low, high]

theorem byte_of_ascii {c : CodePoint} (ascii : c.value < 0x80) (positive : c.value ≠ 0) :
    UInt8.ofNat c.value ≠ 0 ∧ UInt8.ofNat c.value < 0x80 := by
  have number : (UInt8.ofNat c.value).toNat = c.value := Utf8.toNat_byte (by omega)
  constructor
  · intro zero
    rw [zero] at number
    exact positive number.symm
  · rw [UInt8.lt_iff_toNat_lt, number]
    exact ascii

/-- A body that begins with a character of ASCII has no mark. -/
theorem marked?_asciiBytes_append {b : UInt8} (positive : b ≠ 0) (ascii : b < 0x80)
    (e : Encoding) (bytes : Bytes) : marked? (asciiBytes b e ++ bytes) = none := by
  rcases e with _ | ⟨_ | _⟩ | ⟨_ | _⟩
  · exact Utf8.marked?_eq_none bytes positive ascii
  · exact Utf8.marked?_eq_none (0 :: bytes) positive ascii
  · simp [asciiBytes, marked?, mark, List.isPrefixOf, positive.symm]
  · exact Utf8.marked?_eq_none (0 :: 0 :: 0 :: bytes) positive ascii
  · simp [asciiBytes, marked?, mark]

/-- With its mark in front it is known by it: the mark of one form begins
that of another, but the zeros of the longer one are not there. -/
theorem marked?_mark_append {b : UInt8} (positive : b ≠ 0) (e : Encoding) (bytes : Bytes) :
    marked? (e.mark ++ (asciiBytes b e ++ bytes)) = some e := by
  rcases e with _ | ⟨_ | _⟩ | ⟨_ | _⟩ <;>
    simp [asciiBytes, marked?, mark, List.isPrefixOf, positive.symm]

/-- **The zeros tell the form** of a body without a mark: there is one in
each unit of the first character, and in UTF-16 not two in the next unit. -/
theorem unmarked_encode {c : CodePoint} {t : Text} (ascii : c.value < 0x80)
    (positive : ∀ p ∈ c :: t, p.value ≠ 0) (e : Encoding) : unmarked (e.encode (c :: t)) = e := by
  obtain ⟨first, others⟩ := List.forall_mem_cons.1 positive
  obtain ⟨byte, -⟩ := byte_of_ascii ascii first
  cases e with
  | utf8 => exact Utf8.unmarked_eq_utf8 (Utf8.encode_ne_zero positive)
  | utf16 order =>
    rw [encode_ascii ascii]
    have next : (utf16 order).encode t = [] ∨
        ∃ b2 b3 more, (utf16 order).encode t = b2 :: b3 :: more ∧ ¬ (b2 = 0 ∧ b3 = 0) := by
      cases t with
      | nil => exact .inl rfl
      | cons p t =>
        obtain ⟨b2, b3, more, begins, other⟩ :=
          Utf16.encodeValue_begins order (others p List.mem_cons_self)
        exact .inr ⟨b2, b3, _, by rw [encode, List.flatMap_cons, begins]; rfl, other⟩
    rcases next with nothing | ⟨b2, b3, more, begins, other⟩
    · rw [nothing]
      cases order <;> simp [asciiBytes, unmarked, byte]
    · rw [begins]
      cases order <;> simp [asciiBytes, unmarked, byte, other]
  | utf32 order =>
    rw [encode_ascii ascii]
    cases order <;> simp [asciiBytes, unmarked, byte]

/-- **A body is read as the text that was written**, in whichever form and
with or without its mark, if the text begins with a character of ASCII and has
none with the number zero. -/
theorem decodeBody_of_written {c : CodePoint} {t : Text} (ascii : c.value < 0x80)
    (positive : ∀ p ∈ c :: t, p.value ≠ 0) (scalar : Text.isScalar (c :: t) = true)
    (e : Encoding) {body : Bytes}
    (written : body = e.encode (c :: t) ∨ body = e.mark ++ e.encode (c :: t)) :
    decodeBody body = .ok (c :: t) := by
  obtain ⟨first, -⟩ := List.forall_mem_cons.1 positive
  obtain ⟨byte, small⟩ := byte_of_ascii ascii first
  unfold decodeBody
  rcases written with rfl | rfl
  · have unseen : marked? (e.encode (c :: t)) = none := by
      rw [encode_ascii ascii]
      exact marked?_asciiBytes_append byte small e _
    rw [unseen, unmarked_encode ascii positive]
    exact e.decode_encode scalar 0
  · have seen : marked? (e.mark ++ e.encode (c :: t)) = some e := by
      rw [encode_ascii ascii]
      exact marked?_mark_append byte e _
    rw [seen]
    dsimp only
    rw [List.drop_left]
    exact e.decode_encode scalar _

end Encoding

end QueryConsole
