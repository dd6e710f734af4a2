import QueryConsole.Proofs.Json.Grammar
/-!
# Strings of the grammar are what is read as strings

A string is read piece by piece and its pieces are joined afterwards, where
the grammar knows pairs of escapes from the beginning. `Pieces` lies
between the two: it is a body with the pieces it consists of.
`string_eq_ok_iff` is the result, that what is read after an opening
quotation mark is a body of the grammar, the closing mark, and the rest.
-/

namespace QueryConsole.Json

open Grammar

theorem Grammar.HexDigit.lt {p : CodePoint} {n : Nat} (h : HexDigit p n) : n < 16 := by
  cases h <;> omega

namespace Reader

/-! ## Escapes -/

theorem hexValue?_eq_some {p : CodePoint} {n : Nat} : p.hexValue? = some n ↔ HexDigit p n := by
  refine ⟨fun read => ?_, fun digit => ?_⟩
  · cases p with
    | surrogate offset => simp [CodePoint.hexValue?] at read
    | scalar c =>
      -- each of the three ranges gives the distance of `c` from its first digit
      have same {a : Nat} (low : a ≤ c.toNat) :
          CodePoint.scalar c = .scalar (Char.ofNat (a + (c.toNat - a))) := by
        rw [Nat.add_sub_cancel' low, Char.ofNat_toNat]
      simp only [CodePoint.hexValue?] at read
      split at read
      · next range =>
        have digit := HexDigit.decimal ⟨c.toNat - 48, by omega⟩
        rw [← Option.some.inj read, same range.1]
        exact digit
      · split at read
        · next range =>
          have digit := HexDigit.small ⟨c.toNat - 97, by omega⟩
          have value : 10 + (c.toNat - 97) = c.toNat - 87 := by omega
          rw [← Option.some.inj read, same range.1, ← value]
          exact digit
        · split at read
          · next range =>
            have digit := HexDigit.capital ⟨c.toNat - 65, by omega⟩
            have value : 10 + (c.toNat - 65) = c.toNat - 55 := by omega
            rw [← Option.some.inj read, same range.1, ← value]
            exact digit
          · simp at read
  · cases digit with
    | decimal n =>
      revert n
      decide
    | small n =>
      revert n
      decide
    | capital n =>
      revert n
      decide

/-- Four hexadecimal digits number a code point exactly if the grammar has
the escape with these digits for it. -/
theorem fourHex?_eq_some {a b c d p : CodePoint} :
    fourHex? a b c d = some p ↔ Numbered [.scalar '\\', .scalar 'u', a, b, c, d] p := by
  refine ⟨fun read => ?_, fun escape => ?_⟩
  · rw [fourHex?] at read
    split at read
    · next i j k l ha hb hc hd =>
      rw [hexValue?_eq_some] at ha hb hc hd
      have := ha.lt
      have := hb.lt
      have := hc.lt
      have := hd.lt
      refine .mk ha hb hc hd ?_
      rw [← Option.some.inj read, CodePoint.value_ofNat (by omega)]
    · simp at read
  · cases escape with
    | mk ha hb hc hd value =>
      rw [fourHex?, hexValue?_eq_some.2 ha, hexValue?_eq_some.2 hb, hexValue?_eq_some.2 hc,
        hexValue?_eq_some.2 hd]
      simp only
      rw [← value, CodePoint.ofNat_value]

theorem simpleEscape?_eq_some {e q : CodePoint} :
    simpleEscape? e = some q ↔ ∃ c d, (c, d) ∈ escapes ∧ e = .scalar c ∧ q = .scalar d := by
  refine ⟨fun read => ?_, ?_⟩
  · unfold simpleEscape? at read
    split at read
    all_goals first
      | exact ⟨_, _, by decide, rfl, (Option.some.inj read).symm⟩
      | simp at read
  · rintro ⟨c, d, letter, rfl, rfl⟩
    simp only [escapes, List.mem_cons, Prod.mk.injEq, List.not_mem_nil, or_false] at letter
    rcases letter with ⟨rfl, rfl⟩ | ⟨rfl, rfl⟩ | ⟨rfl, rfl⟩ | ⟨rfl, rfl⟩ | ⟨rfl, rfl⟩ |
      ⟨rfl, rfl⟩ | ⟨rfl, rfl⟩ | ⟨rfl, rfl⟩ <;> rfl

/-! ## Pieces -/

/-- The body of a string and the pieces that it consists of. -/
inductive Pieces : Text → List Piece → Prop
  | nil : Pieces [] []
  | plain {p : CodePoint} {u : Text} {ps : List Piece} :
      p ≠ .scalar '"' → p ≠ .scalar '\\' → 0x20 ≤ p.value → Pieces u ps →
      Pieces (p :: u) (.plain p :: ps)
  | lettered {c d : Char} {u : Text} {ps : List Piece} : (c, d) ∈ escapes → Pieces u ps →
      Pieces (.scalar '\\' :: .scalar c :: u) (.plain (.scalar d) :: ps)
  | numbered {e : Text} {p : CodePoint} {u : Text} {ps : List Piece} : Numbered e p →
      Pieces u ps → Pieces (e ++ u) (.escaped p :: ps)

theorem prepend_eq_ok {piece : Piece} {r : Result (List Piece)} {ps : List Piece} {rest : Text}
    (h : prepend piece r = .ok (ps, rest)) : ∃ qs, r = .ok (qs, rest) ∧ ps = piece :: qs := by
  cases r with
  | error fault => simp [prepend, Except.map] at h
  | ok read =>
    obtain ⟨rfl, rfl⟩ := Prod.mk.inj (Except.ok.inj h)
    exact ⟨read.1, rfl, rfl⟩

/-- What is read as pieces is a body that consists of them. -/
theorem pieces_sound {opening : Nat} {t rest : Text} {ps : List Piece}
    (h : pieces opening t = .ok (ps, rest)) :
    ∃ u, t = u ++ .scalar '"' :: rest ∧ Pieces u ps := by
  fun_induction pieces opening t generalizing ps
  case case2 t =>
    obtain ⟨rfl, rfl⟩ := Prod.mk.inj (Except.ok.inj h)
    exact ⟨[], rfl, .nil⟩
  case case4 a b c d next t q hq _ ih =>
    obtain ⟨qs, read, rfl⟩ := prepend_eq_ok h
    obtain ⟨u, same, body⟩ := ih read
    exact ⟨[.scalar '\\', .scalar 'u', a, b, c, d] ++ u, by rw [same]; rfl,
      .numbered (fourHex?_eq_some.1 hq) body⟩
  case case7 e t _ q hq _ ih =>
    obtain ⟨qs, read, rfl⟩ := prepend_eq_ok h
    obtain ⟨u, same, body⟩ := ih read
    obtain ⟨c, d, letter, rfl, rfl⟩ := simpleEscape?_eq_some.1 hq
    exact ⟨.scalar '\\' :: .scalar c :: u, by rw [same]; rfl, .lettered letter body⟩
  case case10 p t quote backslash control ih =>
    obtain ⟨qs, read, rfl⟩ := prepend_eq_ok h
    obtain ⟨u, same, body⟩ := ih read
    exact ⟨p :: u, by rw [same]; rfl, .plain quote backslash (Nat.le_of_not_lt control) body⟩
  all_goals simp [complain] at h

/-- A body that is followed by a quotation mark is read as its pieces. -/
theorem pieces_complete {u : Text} {ps : List Piece} (h : Pieces u ps) (opening : Nat)
    (rest : Text) : pieces opening (u ++ .scalar '"' :: rest) = .ok (ps, rest) := by
  induction h with
  | nil =>
    rw [List.nil_append, pieces.eq_def]
    rfl
  | plain quote backslash control _ ih =>
    rw [List.cons_append, pieces.eq_def]
    simp only [if_neg quote, if_neg backslash, if_neg (Nat.not_lt.2 control), ih]
    rfl
  | @lettered c d u ps letter _ ih =>
    have numberless : c ≠ 'u' := by
      rintro rfl
      revert letter
      simp [escapes]
    rw [List.cons_append, List.cons_append, pieces.eq_def]
    simp only [CodePoint.scalar.injEq, Char.reduceEq, if_true, if_false, if_neg numberless, ih,
      simpleEscape?_eq_some.2 ⟨c, d, letter, rfl, rfl⟩]
    rfl
  | @numbered e p u ps escape _ ih =>
    -- the reader looks one code point beyond the four digits; there is one, if only the mark
    obtain ⟨next, t, same⟩ : ∃ next t, u ++ .scalar '"' :: rest = next :: t := by
      cases u with
      | nil => exact ⟨_, _, rfl⟩
      | cons q u => exact ⟨_, _, rfl⟩
    rw [same] at ih
    cases escape with
    | mk ha hb hc hd value =>
      have read := fourHex?_eq_some.2 (.mk ha hb hc hd value)
      simp only [List.cons_append, List.nil_append, same]
      rw [pieces.eq_def]
      simp only [CodePoint.scalar.injEq, Char.reduceEq, if_true, if_false, read, ih]
      rfl

/-! ## Joining -/

/-- Two code points are joined exactly if they are a high surrogate and a
low one, and then to the character that they number together. -/
theorem ofPair?_eq_some {p q joined : CodePoint} :
    CodePoint.ofPair? p q = some joined ↔ p.isHigh = true ∧ q.isLow = true ∧
      joined.value = 0x10000 + (p.value - 0xD800) * 1024 + (q.value - 0xDC00) := by
  cases p with
  | scalar c => simp [CodePoint.ofPair?, CodePoint.isHigh]
  | surrogate high =>
    cases q with
    | scalar c => simp [CodePoint.ofPair?, CodePoint.isLow]
    | surrogate low =>
      have value : 0x10000 + ((CodePoint.surrogate high).value - 0xD800) * 1024 +
          ((CodePoint.surrogate low).value - 0xDC00) =
            0x10000 + high.val * 1024 + (low.val - 1024) := by
        simp only [CodePoint.value]
        omega
      simp only [CodePoint.ofPair?, CodePoint.isHigh, CodePoint.isLow, value, decide_eq_true_eq]
      by_cases pair : high.val < 1024 ∧ 1024 ≤ low.val
      · rw [if_pos pair, Option.some.injEq]
        constructor
        · intro same
          refine ⟨pair.1, pair.2, ?_⟩
          rw [← same, CodePoint.value_ofNat (by omega)]
        · rintro ⟨-, -, same⟩
          rw [← same, CodePoint.ofNat_value]
      · rw [if_neg pair]
        constructor
        · simp
        · rintro ⟨isHigh, isLow, -⟩
          exact absurd ⟨isHigh, isLow⟩ pair

/-- A high surrogate and a low one make a pair. -/
theorem exists_ofPair? {p q : CodePoint} (isHigh : p.isHigh = true) (isLow : q.isLow = true) :
    ∃ joined, CodePoint.ofPair? p q = some joined := by
  cases p with
  | scalar c => simp [CodePoint.isHigh] at isHigh
  | surrogate high =>
    cases q with
    | scalar c => simp [CodePoint.isLow] at isLow
    | surrogate low =>
      exact ⟨_, if_pos ⟨of_decide_eq_true isHigh, of_decide_eq_true isLow⟩⟩

/-- An escape by number is determined by its text. -/
theorem numbered_unique {e f v w : Text} {p q : CodePoint} (hp : Numbered e p)
    (hq : Numbered f q) (same : e ++ v = f ++ w) : p = q ∧ v = w := by
  have hp' := hp
  have hq' := hq
  cases hp with
  | mk _ _ _ _ _ =>
    cases hq with
    | mk _ _ _ _ _ =>
      simp only [List.cons_append, List.nil_append, List.cons.injEq, true_and] at same
      obtain ⟨rfl, rfl, rfl, rfl, rfl⟩ := same
      exact ⟨Option.some.inj ((fourHex?_eq_some.2 hp').symm.trans (fourHex?_eq_some.2 hq')), rfl⟩

/-- A body that begins with an escape by number has it as its first piece. -/
theorem Pieces.of_numbered {u f w : Text} {low : CodePoint} {ps : List Piece} (h : Pieces u ps)
    (same : u = f ++ w) (escape : Numbered f low) : ∃ qs, ps = .escaped low :: qs := by
  cases h with
  | nil => cases escape; simp at same
  | plain quote backslash control body =>
    cases escape
    obtain ⟨rfl, -⟩ := List.cons.inj same
    exact absurd rfl backslash
  | lettered letter body =>
    cases escape
    simp only [List.cons_append, List.cons.injEq, CodePoint.scalar.injEq, true_and] at same
    obtain ⟨rfl, -⟩ := same
    revert letter
    simp [escapes]
  | @numbered e p u ps other body => exact ⟨ps, by rw [(numbered_unique other escape same).1]⟩

/-- The join of the pieces of a body is the text that the body denotes. -/
theorem Pieces.chars {u : Text} {ps : List Piece} (h : Pieces u ps) : Chars u (joinPieces ps) := by
  fun_induction joinPieces ps generalizing u with
  | case1 => cases h; exact .nil
  | case2 p rest ih =>
    cases h with
    | plain quote backslash control body => exact .plain quote backslash control (ih body)
    | lettered letter body => exact .lettered letter (ih body)
  | case3 p =>
    cases h with
    | numbered escape body =>
      cases body
      refine .numbered escape (fun f low w same numbered _ => ?_) .nil
      cases numbered
      simp at same
  | case4 p q rest ih =>
    cases h with
    | numbered escape body =>
      refine .numbered escape (fun f low w same numbered _ => ?_) (ih body)
      obtain ⟨qs, first⟩ := body.of_numbered same numbered
      simp at first
  | case5 p q rest joined pair ih =>
    cases h with
    | numbered escape body =>
      cases body with
      | numbered second body =>
        obtain ⟨isHigh, isLow, value⟩ := ofPair?_eq_some.1 pair
        exact .pair escape second isHigh isLow value (ih body)
  | case6 p q rest single ih =>
    cases h with
    | numbered escape body =>
      -- a low surrogate after a high one would have been joined to it
      refine .numbered escape (fun f low w same numbered isHigh => ?_) (ih body)
      obtain ⟨qs, first⟩ := body.of_numbered same numbered
      obtain rfl : q = low := Piece.escaped.inj (List.cons.inj first).1
      refine Bool.eq_false_iff.2 fun isLow => ?_
      obtain ⟨joined, pair⟩ := exists_ofPair? isHigh isLow
      rw [single] at pair
      simp at pair

/-- A body that denotes a text consists of pieces whose join is the text. -/
theorem exists_pieces {u t : Text} (h : Chars u t) : ∃ ps, Pieces u ps ∧ joinPieces ps = t := by
  induction h with
  | nil => exact ⟨[], .nil, rfl⟩
  | @plain p u t quote backslash control _ ih =>
    obtain ⟨ps, body, rfl⟩ := ih
    exact ⟨.plain p :: ps, .plain quote backslash control body, by rw [joinPieces]⟩
  | @lettered c d u t letter _ ih =>
    obtain ⟨ps, body, rfl⟩ := ih
    exact ⟨.plain (.scalar d) :: ps, .lettered letter body, by rw [joinPieces]⟩
  | @pair e f high low joined u t escape second isHigh isLow value _ ih =>
    obtain ⟨ps, body, rfl⟩ := ih
    refine ⟨.escaped high :: .escaped low :: ps, .numbered escape (.numbered second body), ?_⟩
    rw [joinPieces, ofPair?_eq_some.2 ⟨isHigh, isLow, value⟩]
  | @numbered e p u t escape single _ ih =>
    obtain ⟨ps, body, rfl⟩ := ih
    refine ⟨.escaped p :: ps, .numbered escape body, ?_⟩
    -- only another escape by number could be joined, and `single` says that it makes no pair
    cases body with
    | nil => rfl
    | plain _ _ _ _ => simp only [joinPieces]
    | lettered _ _ => simp only [joinPieces]
    | @numbered f q u ps second body =>
      rw [joinPieces]
      cases pair : CodePoint.ofPair? p q with
      | none => rfl
      | some joined =>
        obtain ⟨isHigh, isLow, -⟩ := ofPair?_eq_some.1 pair
        exact absurd (single f q u rfl second isHigh) (by rw [isLow]; simp)

/-- **A string is read exactly if the grammar has it**: after an opening
quotation mark stand a body that denotes the text, the closing mark, and
the rest. -/
theorem string_eq_ok_iff {t s rest : Text} :
    string t = .ok (s, rest) ↔ ∃ u, t = u ++ .scalar '"' :: rest ∧ Chars u s := by
  refine ⟨fun read => ?_, ?_⟩
  · rw [string] at read
    cases h : pieces (t.length + 1) t with
    | error fault => rw [h] at read; simp [Except.map] at read
    | ok r =>
      obtain ⟨ps, rest'⟩ := r
      rw [h] at read
      obtain ⟨rfl, rfl⟩ := Prod.mk.inj (Except.ok.inj read)
      obtain ⟨u, same, body⟩ := pieces_sound h
      exact ⟨u, same, body.chars⟩
  · rintro ⟨u, rfl, chars⟩
    obtain ⟨ps, body, rfl⟩ := exists_pieces chars
    rw [string, pieces_complete body]
    rfl

end Reader

end QueryConsole.Json
