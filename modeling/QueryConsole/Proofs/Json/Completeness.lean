import QueryConsole.Proofs.Json.Soundness
/-!
# What is derived is read

The reader against the grammar, in the other direction. A derived value is
read, with the value that it denotes, wherever something stands after it
that may follow a value, and at every depth that it does not exceed; beyond
that the reader says that it is too deep, and nothing else (`Reads`).
`derived_reads` is one induction over derivations, in which every
constructor is a step of the reader.
-/

namespace QueryConsole.Json.Reader

open Grammar

/-! ## Where a derived text begins -/

/-- The code points that a value may begin with. -/
def openings : Text := "\"[\x7b-0123456789ntfNI"

/-- A text that begins like a value. -/
def Opens (u : Text) : Prop :=
  ∃ c r, u = c :: r ∧ c ∈ openings

/-- A value begins with something that is neither blank nor closing. -/
theorem not_blank_of_opening {c : CodePoint} (h : c ∈ openings) :
    c ∉ Text.ofString " \t\n\r]\x7d" := by
  have all : ∀ p ∈ openings, p ∉ Text.ofString " \t\n\r]\x7d" := by decide
  exact all c h

theorem Opens.append {u : Text} (h : Opens u) (w : Text) : Opens (u ++ w) := by
  obtain ⟨c, r, rfl, opening⟩ := h
  exact ⟨c, r ++ w, rfl, opening⟩

/-- A numeral begins with a digit, or with a minus sign and a digit. -/
theorem number_begins {u : Text} {n : Numeral} (h : Number u n) :
    ∃ d r, u = Digits.codePoint d :: r ∨ u = .scalar '-' :: Digits.codePoint d :: r := by
  cases h with
  | mk hm hwhole _ _ =>
    obtain ⟨d, ds, rfl⟩ := exists_cons_of_whole hwhole
    cases hm with
    | absent => exact ⟨d, _, .inl rfl⟩
    | minus => exact ⟨d, _, .inr rfl⟩

theorem Opens.of_derives {u : Text} {p : Phrase} (h : Derives u p) : Opens u := by
  induction h with
  | word mem =>
    simp only [Grammar.words, List.mem_cons, Prod.mk.injEq, List.not_mem_nil, or_false] at mem
    rcases mem with ⟨rfl, -⟩ | ⟨rfl, -⟩ | ⟨rfl, -⟩ | ⟨rfl, -⟩ | ⟨rfl, -⟩ | ⟨rfl, -⟩ <;>
      exact ⟨_, _, rfl, by decide⟩
  | number spelled _ =>
    have digit : ∀ d, Digits.codePoint d ∈ openings := by decide
    obtain ⟨d, r, rfl | rfl⟩ := number_begins spelled
    · exact ⟨_, _, rfl, digit d⟩
    · exact ⟨_, _, rfl, by decide⟩
  | string _ => exact ⟨_, _, rfl, by decide⟩
  | emptyArray _ => exact ⟨_, _, rfl, by decide⟩
  | array _ _ _ => exact ⟨_, _, rfl, by decide⟩
  | emptyObject _ => exact ⟨_, _, rfl, by decide⟩
  | object _ _ _ _ => exact ⟨_, _, rfl, by decide⟩
  | lastItem _ _ ih => exact ih.append _
  | item _ _ _ _ ih _ => exact ih.append _
  | member _ _ _ _ _ => exact ⟨_, _, rfl, by decide⟩
  | lastMember _ _ ih => exact ih.append _
  | nextMember _ _ _ _ ih _ => exact ih.append _

/-! ## Blanks and words -/

/-- Blanks are skipped up to something that is not blank. -/
theorem skipBlanks_append {b t : Text} (blanks : Blanks b)
    (first : ∀ p, t.head? = some p → p ∉ Text.ofString " \t\n\r") : skipBlanks (b ++ t) = t := by
  rw [skipBlanks, List.dropWhile_append_of_pos fun p mem => isBlank_iff.2 (blanks p mem)]
  cases t with
  | nil => rfl
  | cons p t =>
    have nonblank : ¬ isBlank p = true := fun blank => first p rfl (isBlank_iff.1 blank)
    rw [List.dropWhile_cons, if_neg nonblank]

theorem skipBlanks_cons {b t : Text} {p : CodePoint} (blanks : Blanks b)
    (nonblank : p ∉ Text.ofString " \t\n\r") : skipBlanks (b ++ p :: t) = p :: t :=
  skipBlanks_append blanks fun _ first => Option.some.inj first ▸ nonblank

theorem Opens.skipBlanks_append {b u : Text} (h : Opens u) (blanks : Blanks b) :
    skipBlanks (b ++ u) = u := by
  obtain ⟨c, r, rfl, opening⟩ := h
  exact skipBlanks_cons blanks fun blank =>
    not_blank_of_opening opening (List.mem_append_left (Text.ofString "]\x7d") blank)

/-- Blanks may follow a value if what comes after them may. -/
theorem Follows.blanks {a t : Text} (blanks : Blanks a) (h : Follows t) : Follows (a ++ t) := by
  cases a with
  | nil => exact h
  | cons p a =>
    intro q first
    rw [← Option.some.inj first]
    exact List.mem_append_left (Text.ofString ",]\x7d") (blanks p List.mem_cons_self)

theorem follows_cons {p : CodePoint} {t : Text} (h : p ∈ Text.ofString " \t\n\r,]\x7d") :
    Follows (p :: t) :=
  fun _ first => Option.some.inj first ▸ h

theorem word?_append {name : String} {v : Json} (mem : (name, v) ∈ Grammar.words) (t : Text) :
    word? (Text.ofString name ++ t) words = some (v, t) := by
  simp only [Grammar.words, List.mem_cons, Prod.mk.injEq, List.not_mem_nil, or_false] at mem
  rcases mem with ⟨rfl, rfl⟩ | ⟨rfl, rfl⟩ | ⟨rfl, rfl⟩ | ⟨rfl, rfl⟩ | ⟨rfl, rfl⟩ | ⟨rfl, rfl⟩ <;>
    rfl

/-- No word is the beginning of a text that starts as no word does. -/
theorem word?_eq_none {t : Text} {ws : List (String × Json)} (n : Nat)
    (h : ∀ w ∈ ws, n ≤ (Text.ofString w.1).length ∧ (Text.ofString w.1).take n ≠ t.take n) :
    word? t ws = none := by
  induction ws with
  | nil => rfl
  | cons w ws ih =>
    rw [word?]
    cases begins : Text.dropStart? (Text.ofString w.1) t with
    | some rest =>
      obtain ⟨long, differ⟩ := h w List.mem_cons_self
      rw [dropStart?_eq_some.1 begins, List.take_append_of_le_length long] at differ
      exact absurd rfl differ
    | none => exact ih fun w mem => h w (List.mem_cons_of_mem _ mem)

theorem word?_number {u : Text} {n : Numeral} (h : Number u n) (t : Text) :
    word? (u ++ t) words = none := by
  have digit : ∀ d, ∀ w ∈ words, 1 ≤ (Text.ofString w.1).length ∧
      (Text.ofString w.1).take 1 ≠ [Digits.codePoint d] := by decide
  have minus : ∀ d, ∀ w ∈ words, 2 ≤ (Text.ofString w.1).length ∧
      (Text.ofString w.1).take 2 ≠ [.scalar '-', Digits.codePoint d] := by decide
  obtain ⟨d, r, rfl | rfl⟩ := number_begins h
  · exact word?_eq_none 1 (digit d)
  · exact word?_eq_none 2 (minus d)

/-! ## Reading -/

/-- A reader gives a result, or it says that the text is too deep. -/
def Reads {α : Type} (r : Result α) (a : α) (rest : Text) : Prop :=
  r = .ok (a, rest) ∨ ∃ bracket, r = .error (.tooDeep bracket)

theorem Reads.map {α β : Type} {r : Result α} {a : α} {rest : Text} (h : Reads r a rest)
    (f : α → β) : Reads (r.map fun (a, rest) => (f a, rest)) (f a) rest := by
  rcases h with rfl | ⟨bracket, rfl⟩
  · exact .inl rfl
  · exact .inr ⟨bracket, rfl⟩

section Items

variable {α : Type} {item : Text → Result α} {closing : CodePoint} {u a b r rest : Text}
  {v : α} {vs : List α}

theorem nonblank_of_closing (close : closing ∈ Text.ofString "]\x7d") :
    closing ∉ Text.ofString " \t\n\r" := by
  revert closing
  decide

theorem follows_closing (blanks : Blanks a) (close : closing ∈ Text.ofString "]\x7d")
    (rest : Text) : Follows (a ++ closing :: rest) :=
  .blanks blanks (follows_cons (List.mem_append_right (Text.ofString " \t\n\r,") close))

/-- The last item, blanks and the closing mark. -/
theorem reads_last (read : ∀ rest, Follows rest → Reads (item (u ++ rest)) v rest)
    (blanks : Blanks a) (close : closing ∈ Text.ofString "]\x7d") {fuel : Nat}
    (enough : (u ++ a).length < fuel) (rest : Text) :
    Reads (items item closing fuel ((u ++ a) ++ closing :: rest)) [v] rest := by
  obtain ⟨fuel, rfl⟩ := Nat.exists_eq_succ_of_ne_zero (Nat.ne_zero_of_lt enough)
  rw [items, List.append_assoc]
  rcases read _ (follows_closing blanks close rest) with read | ⟨bracket, read⟩
  · simp only [read, bind, Except.bind, skipBlanks_cons blanks (nonblank_of_closing close), if_true]
    exact .inl rfl
  · simp only [read, bind, Except.bind]
    exact .inr ⟨bracket, rfl⟩

/-- An item, blanks, a comma, blanks and the items after it. -/
theorem reads_next (read : ∀ rest, Follows rest → Reads (item (u ++ rest)) v rest)
    (blanks : Blanks a) (blanks' : Blanks b) (close : closing ∈ Text.ofString "]\x7d")
    (opens : Opens r)
    (others : ∀ fuel, r.length < fuel →
      Reads (items item closing fuel (r ++ closing :: rest)) vs rest)
    {fuel : Nat} (enough : (u ++ (a ++ .scalar ',' :: (b ++ r))).length < fuel) :
    Reads (items item closing fuel ((u ++ (a ++ .scalar ',' :: (b ++ r))) ++ closing :: rest))
      (v :: vs) rest := by
  obtain ⟨fuel, rfl⟩ := Nat.exists_eq_succ_of_ne_zero (Nat.ne_zero_of_lt enough)
  simp only [List.length_append, List.length_cons] at enough
  have differ : CodePoint.scalar ',' ≠ closing := by
    rintro rfl
    revert close
    decide
  have comma : CodePoint.scalar ',' ∈ Text.ofString " \t\n\r,]\x7d" := by decide
  rw [items]
  simp only [List.append_assoc, List.cons_append]
  -- blanks and a comma may follow the item, so it is read; the others have a step less
  rcases read (a ++ .scalar ',' :: (b ++ (r ++ closing :: rest)))
    (.blanks blanks (follows_cons comma)) with read | ⟨bracket, read⟩
  · simp only [read, bind, Except.bind, skipBlanks_cons blanks (p := .scalar ',') (by decide),
      if_neg differ, if_true, (opens.append _).skipBlanks_append blanks']
    rcases others fuel (by omega) with others | ⟨bracket, others⟩
    · simp only [others]
      exact .inl rfl
    · simp only [others]
      exact .inr ⟨bracket, rfl⟩
  · simp only [read, bind, Except.bind]
    exact .inr ⟨bracket, rfl⟩

/-- Nothing but blanks between brackets. -/
theorem bracketed_empty (blanks : Blanks b) (close : closing ∈ Text.ofString "]\x7d") :
    bracketed item closing (b ++ closing :: rest) = .ok ([], rest) := by
  rw [bracketed, skipBlanks_cons blanks (nonblank_of_closing close)]
  simp

/-- Items between brackets: the number of steps allowed is enough. -/
theorem bracketed_items (item : Text → Result α) (blanks : Blanks b) (opens : Opens u)
    (close : closing ∈ Text.ofString "]\x7d") (rest : Text) :
    ∃ fuel, u.length < fuel ∧ bracketed item closing (b ++ (u ++ closing :: rest)) =
      items item closing fuel (u ++ closing :: rest) := by
  obtain ⟨c, w, rfl, opening⟩ := opens
  have other := not_blank_of_opening opening
  have nonblank : c ∉ Text.ofString " \t\n\r" := fun blank =>
    other (List.mem_append_left (Text.ofString "]\x7d") blank)
  have differ : c ≠ closing := fun same =>
    other (List.mem_append_right (Text.ofString " \t\n\r") (same ▸ close))
  refine ⟨(w ++ closing :: rest).length + 1, ?_, ?_⟩
  · simp only [List.length_cons, List.length_append]
    omega
  · rw [bracketed, List.cons_append, skipBlanks_cons blanks nonblank]
    exact if_neg differ

end Items

/-- A text that begins with no bracket is read as a value without parts. -/
theorem value_eq_scalar {t : Text} (array : t.head? ≠ some (.scalar '['))
    (object : t.head? ≠ some (.scalar '{')) (depth : Nat) : value depth t = scalar t := by
  rw [value.eq_def]
  cases depth with
  | zero =>
    simp only
    split
    · exact absurd rfl array
    · exact absurd rfl object
    · rfl
  | succ depth =>
    simp only
    split
    · exact absurd rfl array
    · exact absurd rfl object
    · rfl

theorem scalar_string {u t : Text} (chars : Chars u t) (rest : Text) :
    scalar (.scalar '"' :: (u ++ .scalar '"' :: rest)) = .ok (.string t, rest) := by
  rw [scalar, string_eq_ok_iff.2 ⟨u, rfl, chars⟩]
  rfl

theorem scalar_eq {t : Text} (quote : t.head? ≠ some (.scalar '"')) :
    scalar t = match word? t words with
      | some r => .ok r
      | none => match numeral? t with
        | some (n, rest) => (number n).map fun v => (v, rest)
        | none => complain .noValue t := by
  rw [scalar.eq_def]
  split
  · exact absurd rfl quote
  · rfl

/-- The first code point of a text, put before another. -/
theorem head_append_ne {u w : Text} {p : CodePoint} (nonempty : u ≠ [])
    (differ : u.head? ≠ some p) : (u ++ w).head? ≠ some p := by
  cases u with
  | nil => exact absurd rfl nonempty
  | cons q u => exact differ

theorem value_word {name : String} {v : Json} (mem : (name, v) ∈ Grammar.words) (depth : Nat)
    (rest : Text) : value depth (Text.ofString name ++ rest) = .ok (v, rest) := by
  have first : ∀ w ∈ Grammar.words, Text.ofString w.1 ≠ [] ∧
      ∀ p ∈ Text.ofString "[\x7b\"", (Text.ofString w.1).head? ≠ some p := by decide
  obtain ⟨nonempty, differ⟩ := first _ mem
  rw [value_eq_scalar (head_append_ne nonempty (differ _ (by decide)))
      (head_append_ne nonempty (differ _ (by decide))),
    scalar_eq (head_append_ne nonempty (differ _ (by decide))), word?_append mem]

theorem value_number {u rest : Text} {n : Numeral} {v : Json} (spelled : Number u n)
    (amount : Amount n v) (follows : Follows rest) (depth : Nat) :
    value depth (u ++ rest) = .ok (v, rest) := by
  have digit : ∀ d, ∀ p ∈ Text.ofString "[\x7b\"", Digits.codePoint d ≠ p := by decide
  have first : ∀ p ∈ Text.ofString "[\x7b\"", (u ++ rest).head? ≠ some p := by
    intro p mem
    obtain ⟨d, r, rfl | rfl⟩ := number_begins spelled
    · exact fun same => digit d p mem (Option.some.inj same)
    · rintro ⟨⟩
      revert mem
      decide
  rw [value_eq_scalar (first _ (by decide)) (first _ (by decide)), scalar_eq (first _ (by decide)),
    word?_number spelled, numeral?_complete spelled follows.ends]
  simp only [number_eq_ok_iff.2 amount]
  rfl

/-! ## Derived texts -/

/-- What the reader makes of a text that derives a part of a document. The
items of an array and the members of an object are read up to the closing
bracket. -/
def Read (u : Text) : Phrase → Prop
  | .value v => ∀ depth rest, Follows rest → Reads (value depth (u ++ rest)) v rest
  | .items vs => ∀ depth fuel rest, u.length < fuel →
      Reads (items (value depth) (.scalar ']') fuel (u ++ .scalar ']' :: rest)) vs rest
  | .member m => ∀ depth rest, Follows rest → Reads (member (value depth) (u ++ rest)) m rest
  | .members ms => ∀ depth fuel rest, u.length < fuel →
      Reads (items (member (value depth)) (.scalar '\x7d') fuel (u ++ .scalar '\x7d' :: rest))
        ms rest

theorem reads_member {u a b r name rest : Text} {v : Json} {value : Text → Result Json}
    (chars : Chars u name) (blanks : Blanks a) (blanks' : Blanks b) (opens : Opens (r ++ rest))
    (read : Reads (value (r ++ rest)) v rest) :
    Reads (member value (.scalar '"' :: (u ++ .scalar '"' :: (a ++ .scalar ':' ::
      (b ++ (r ++ rest)))))) (name, v) rest := by
  rw [member]
  simp only [string_eq_ok_iff.2 ⟨u, rfl, chars⟩, bind, Except.bind,
    skipBlanks_cons blanks (p := .scalar ':') (by decide), opens.skipBlanks_append blanks']
  rcases read with read | ⟨bracket, read⟩
  · simp only [read]
    exact .inl rfl
  · simp only [read]
    exact .inr ⟨bracket, rfl⟩

/-- **What is derived is read**, down to the depth that is read. -/
theorem derived_reads {u : Text} {p : Phrase} (h : Derives u p) : Read u p := by
  induction h with
  | word mem => exact fun depth rest _ => .inl (value_word mem depth rest)
  | number spelled amount =>
    exact fun depth rest follows => .inl (value_number spelled amount follows depth)
  | string chars =>
    intro depth rest _
    rw [value_eq_scalar (by rintro ⟨⟩) (by rintro ⟨⟩), List.cons_append, List.append_assoc]
    exact .inl (scalar_string chars rest)
  | emptyArray blanks =>
    intro depth rest _
    cases depth with
    | zero => exact .inr ⟨.array, rfl⟩
    | succ depth =>
      rw [List.cons_append, List.append_assoc, List.singleton_append, value,
        bracketed_empty blanks (by decide)]
      exact .inl rfl
  | array blanks derived ih =>
    intro depth rest _
    -- an opening bracket takes one from the depth, and where there is none left it is too deep
    cases depth with
    | zero => exact .inr ⟨.array, rfl⟩
    | succ depth =>
      have close : CodePoint.scalar ']' ∈ Text.ofString "]\x7d" := by decide
      obtain ⟨fuel, enough, same⟩ :=
        bracketed_items (value depth) blanks (.of_derives derived) close rest
      simp only [List.cons_append, List.append_assoc, List.nil_append]
      rw [value, same]
      exact (ih depth fuel rest enough).map Json.array
  | emptyObject blanks =>
    intro depth rest _
    cases depth with
    | zero => exact .inr ⟨.object, rfl⟩
    | succ depth =>
      rw [List.cons_append, List.append_assoc, List.singleton_append, value,
        bracketed_empty blanks (by decide)]
      exact .inl rfl
  | object blanks derived merged ih =>
    intro depth rest _
    cases depth with
    | zero => exact .inr ⟨.object, rfl⟩
    | succ depth =>
      have close : CodePoint.scalar '\x7d' ∈ Text.ofString "]\x7d" := by decide
      obtain ⟨fuel, enough, same⟩ :=
        bracketed_items (member (value depth)) blanks (.of_derives derived) close rest
      simp only [List.cons_append, List.append_assoc, List.nil_append]
      -- the members that the grammar allows are those that the reader puts together
      rw [value, same, merged.unique]
      exact (ih depth fuel rest enough).map fun ms => Json.object (Members.ofList ms)
  | lastItem _ blanks ih =>
    exact fun depth fuel rest enough => reads_last (ih depth) blanks (by decide) enough rest
  | item _ blanks blanks' derived ih ih' =>
    exact fun depth fuel rest enough => reads_next (ih depth) blanks blanks' (by decide)
      (.of_derives derived) (fun fuel => ih' depth fuel rest) enough
  | member chars blanks blanks' derived ih =>
    intro depth rest follows
    simp only [List.append_assoc, List.cons_append]
    exact reads_member chars blanks blanks' ((Opens.of_derives derived).append _)
      (ih depth rest follows)
  | lastMember _ blanks ih =>
    exact fun depth fuel rest enough => reads_last (ih depth) blanks (by decide) enough rest
  | nextMember _ blanks blanks' derived ih ih' =>
    exact fun depth fuel rest enough => reads_next (ih depth) blanks blanks' (by decide)
      (.of_derives derived) (fun fuel => ih' depth fuel rest) enough

end QueryConsole.Json.Reader
