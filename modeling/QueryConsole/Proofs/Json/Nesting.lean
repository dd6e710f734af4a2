import QueryConsole.Proofs.Json.Completeness
/-!
# How deep a text nests

`nesting` counts the brackets of a text that are open at once, without the
strings, and needs no value to do so. What is read leaves as many brackets
open as there were (`deepest_derives`), so where the reader says that a
text is too deep, it has gone down through that many brackets
(`value_tooDeep`). A text that does not nest so deep is therefore read, or
refused for another reason.
-/

namespace QueryConsole.Json

open Grammar

/-- Where a code point of a text stands: outside of all strings, in one, or
after a backslash in one. -/
inductive Place
  | outside
  | inside
  | escaped

/-- The most brackets that are open at once from here on, `level` being
open now. -/
def deepest : Place → Nat → Text → Nat
  | _, level, [] => level
  | .outside, level, p :: t =>
    if p = .scalar '"' then deepest .inside level t
    else if p = .scalar '[' ∨ p = .scalar '\x7b' then deepest .outside (level + 1) t
    else if p = .scalar ']' ∨ p = .scalar '\x7d' then max level (deepest .outside (level - 1) t)
    else deepest .outside level t
  | .inside, level, p :: t =>
    if p = .scalar '"' then deepest .outside level t
    else if p = .scalar '\\' then deepest .escaped level t
    else deepest .inside level t
  | .escaped, level, _ :: t => deepest .inside level t

/-- **The nesting of a text**: the most brackets that are open at once. -/
def nesting (t : Text) : Nat :=
  deepest .outside 0 t

theorem level_le_deepest (place : Place) (level : Nat) (t : Text) :
    level ≤ deepest place level t := by
  fun_induction deepest place level t <;> omega

/-! ## What the parts of a document do to the nesting -/

/-- The code points that mean nothing to the nesting. -/
def Plain (u : Text) : Prop :=
  ∀ p ∈ u, p ∉ Text.ofString "\"[]\x7b\x7d"

theorem deepest_plain {u : Text} (plain : Plain u) (level : Nat) (t : Text) :
    deepest .outside level (u ++ t) = deepest .outside level t := by
  induction u with
  | nil => rfl
  | cons p u ih =>
    have other := plain p List.mem_cons_self
    simp only [Text.ofString, String.reduceToList, List.map_cons, List.map_nil, List.mem_cons,
      List.not_mem_nil, or_false, not_or] at other
    rw [List.cons_append, deepest, if_neg other.1, if_neg (by simp [other]),
      if_neg (by simp [other]), ih fun q mem => plain q (List.mem_cons_of_mem p mem)]

theorem plain_blanks {b : Text} (blanks : Blanks b) : Plain b := by
  have blank : ∀ p ∈ Text.ofString " \t\n\r", p ∉ Text.ofString "\"[]\x7b\x7d" := by decide
  exact fun p mem => blank p (blanks p mem)

theorem deepest_skipBlanks (level : Nat) (t : Text) :
    deepest .outside level (Reader.skipBlanks t) = deepest .outside level t := by
  obtain ⟨b, same, blanks⟩ := Reader.skipBlanks_sound t
  conv => rhs; rw [same, deepest_plain (plain_blanks blanks)]

/-- The code points that a numeral is written with. -/
theorem mem_number {u : Text} {n : Numeral} (h : Number u n) {p : CodePoint} (mem : p ∈ u) :
    p ∈ Text.ofString "0123456789+-.eE" := by
  have digit (d : Digit) : Digits.codePoint d ∈ Text.ofString "0123456789+-.eE" := by
    revert d
    decide
  have digits {ds : List Digit} (mem : p ∈ ds.map Digits.codePoint) :
      p ∈ Text.ofString "0123456789+-.eE" := by
    obtain ⟨d, -, rfl⟩ := List.mem_map.1 mem
    exact digit d
  cases h with
  | mk hm hwhole hf hx =>
    simp only [List.mem_append] at mem
    rcases mem with mem | mem | mem | mem
    · cases hm with
      | absent => simp at mem
      | minus => rw [List.mem_singleton.1 mem]; decide
    · exact digits mem
    · cases hf with
      | absent => simp at mem
      | present _ =>
        rcases List.mem_cons.1 mem with rfl | mem
        · decide
        · exact digits mem
    · cases hx with
      | absent => simp at mem
      | present mark sign _ =>
        rcases List.mem_cons.1 mem with rfl | mem
        · rcases mark with rfl | rfl <;> decide
        · rcases List.mem_append.1 mem with mem | mem
          · cases sign with
            | absent => simp at mem
            | plus => rw [List.mem_singleton.1 mem]; decide
            | minus => rw [List.mem_singleton.1 mem]; decide
          · exact digits mem

theorem plain_number {u : Text} {n : Numeral} (h : Number u n) : Plain u := by
  have mark : ∀ p ∈ Text.ofString "0123456789+-.eE", p ∉ Text.ofString "\"[]\x7b\x7d" := by decide
  exact fun p mem => mark p (mem_number h mem)

theorem plain_word {name : String} {v : Json} (mem : (name, v) ∈ Grammar.words) :
    Plain (Text.ofString name) := by
  have all : ∀ w ∈ Grammar.words, ∀ p ∈ Text.ofString w.1, p ∉ Text.ofString "\"[]\x7b\x7d" := by
    decide
  exact all _ mem

/-- An escape by number does not end a string. -/
theorem deepest_numbered {e : Text} {p : CodePoint} (h : Numbered e p) (level : Nat) (t : Text) :
    deepest .inside level (e ++ t) = deepest .inside level t := by
  have digit {c : CodePoint} {n : Nat} (h : HexDigit c n) :
      c ≠ .scalar '"' ∧ c ≠ .scalar '\\' := by
    cases h with
    | decimal n => revert n; decide
    | small n => revert n; decide
    | capital n => revert n; decide
  cases h with
  | mk ha hb hc hd _ =>
    simp [deepest, digit ha, digit hb, digit hc, digit hd]

/-- A string ends with its closing mark, whatever brackets stand in it. -/
theorem deepest_chars {u s : Text} (h : Chars u s) (level : Nat) (t : Text) :
    deepest .inside level (u ++ .scalar '"' :: t) = deepest .outside level t := by
  induction h with
  | nil => simp [deepest]
  | plain quote backslash _ _ ih =>
    rw [List.cons_append, deepest, if_neg quote, if_neg backslash, ih]
  | lettered _ _ ih =>
    rw [List.cons_append, List.cons_append, deepest, if_neg (by simp), if_pos rfl, deepest, ih]
  | pair escape second _ _ _ _ ih =>
    rw [List.append_assoc, List.append_assoc, deepest_numbered escape, deepest_numbered second, ih]
  | numbered escape _ _ ih => rw [List.append_assoc, deepest_numbered escape, ih]

theorem deepest_string {u s : Text} (h : Chars u s) (level : Nat) (t : Text) :
    deepest .outside level (.scalar '"' :: (u ++ .scalar '"' :: t)) = deepest .outside level t := by
  rw [deepest, if_pos rfl, deepest_chars h]

theorem deepest_open {p : CodePoint} (h : p = .scalar '[' ∨ p = .scalar '\x7b') (level : Nat)
    (t : Text) : deepest .outside level (p :: t) = deepest .outside (level + 1) t := by
  rcases h with rfl | rfl <;> simp [deepest]

theorem deepest_close {p : CodePoint} (h : p = .scalar ']' ∨ p = .scalar '\x7d') (level : Nat)
    (t : Text) :
    deepest .outside (level + 1) (p :: t) = max (level + 1) (deepest .outside level t) := by
  rcases h with rfl | rfl <;> simp [deepest]

theorem deepest_comma (level : Nat) (t : Text) :
    deepest .outside level (.scalar ',' :: t) = deepest .outside level t := by
  simp [deepest]

theorem deepest_colon (level : Nat) (t : Text) :
    deepest .outside level (.scalar ':' :: t) = deepest .outside level t := by
  simp [deepest]

theorem deepest_last {u a : Text} {level : Nat}
    (first : ∀ t, deepest .outside level t ≤ deepest .outside level (u ++ t)) (blanks : Blanks a)
    (t : Text) : deepest .outside level t ≤ deepest .outside level ((u ++ a) ++ t) := by
  have := first (a ++ t)
  rw [deepest_plain (plain_blanks blanks)] at this
  rwa [List.append_assoc]

theorem deepest_next {u a b r : Text} {level : Nat}
    (first : ∀ t, deepest .outside level t ≤ deepest .outside level (u ++ t)) (blanks : Blanks a)
    (blanks' : Blanks b)
    (others : ∀ t, deepest .outside level t ≤ deepest .outside level (r ++ t)) (t : Text) :
    deepest .outside level t ≤
      deepest .outside level ((u ++ (a ++ .scalar ',' :: (b ++ r))) ++ t) := by
  have := first (a ++ (.scalar ',' :: (b ++ (r ++ t))))
  rw [deepest_plain (plain_blanks blanks), deepest_comma, deepest_plain (plain_blanks blanks')]
    at this
  simp only [List.append_assoc, List.cons_append]
  exact Nat.le_trans (others t) this

/-- **A derived text closes all brackets that it opens**, so that it does
not take anything from the nesting of what follows. -/
theorem deepest_derives {u : Text} {p : Phrase} (h : Derives u p) (level : Nat) (t : Text) :
    deepest .outside level t ≤ deepest .outside level (u ++ t) := by
  induction h generalizing level t with
  | word mem => exact Nat.le_of_eq (deepest_plain (plain_word mem) level t).symm
  | number spelled _ => exact Nat.le_of_eq (deepest_plain (plain_number spelled) level t).symm
  | string chars =>
    rw [List.cons_append, List.append_assoc, List.singleton_append]
    exact Nat.le_of_eq (deepest_string chars level t).symm
  | emptyArray blanks =>
    rw [List.cons_append, List.append_assoc, List.singleton_append, deepest_open (.inl rfl),
      deepest_plain (plain_blanks blanks), deepest_close (.inl rfl)]
    exact Nat.le_max_right _ _
  | array blanks _ ih =>
    have closed := ih (level + 1) (.scalar ']' :: t)
    rw [deepest_close (.inl rfl)] at closed
    simp only [List.cons_append, List.append_assoc, List.nil_append]
    rw [deepest_open (.inl rfl), deepest_plain (plain_blanks blanks)]
    exact Nat.le_trans (Nat.le_max_right _ _) closed
  | emptyObject blanks =>
    rw [List.cons_append, List.append_assoc, List.singleton_append, deepest_open (.inr rfl),
      deepest_plain (plain_blanks blanks), deepest_close (.inr rfl)]
    exact Nat.le_max_right _ _
  | object blanks _ _ ih =>
    have closed := ih (level + 1) (.scalar '\x7d' :: t)
    rw [deepest_close (.inr rfl)] at closed
    simp only [List.cons_append, List.append_assoc, List.nil_append]
    rw [deepest_open (.inr rfl), deepest_plain (plain_blanks blanks)]
    exact Nat.le_trans (Nat.le_max_right _ _) closed
  | lastItem _ blanks ih => exact deepest_last (ih level) blanks t
  | item _ blanks blanks' _ ih ih' => exact deepest_next (ih level) blanks blanks' (ih' level) t
  | member chars blanks blanks' _ ih =>
    simp only [List.cons_append, List.append_assoc]
    rw [deepest_string chars, deepest_plain (plain_blanks blanks), deepest_colon,
      deepest_plain (plain_blanks blanks')]
    exact ih level t
  | lastMember _ blanks ih => exact deepest_last (ih level) blanks t
  | nextMember _ blanks blanks' _ ih ih' =>
    exact deepest_next (ih level) blanks blanks' (ih' level) t

/-! ## What the reader finds too deep -/

namespace Reader

theorem map_eq_error {α β : Type} {r : Except Fault α} {f : α → β} {fault : Fault}
    (h : r.map f = .error fault) : r = .error fault := by
  cases r with
  | error f => exact congrArg _ (Except.error.inj h)
  | ok a => simp [Except.map] at h

/-- The number of digits is no matter of depth. -/
theorem number_ne_tooDeep (n : Numeral) (bracket : Bracket) :
    number n ≠ .error (.tooDeep bracket) := by
  rw [number]
  split
  · split <;> simp
  · simp

theorem pieces_ne_tooDeep (opening : Nat) (t : Text) (bracket : Bracket) :
    pieces opening t ≠ .error (.tooDeep bracket) := by
  have kept {piece : Piece} {r : Result (List Piece)} (no : r ≠ .error (.tooDeep bracket)) :
      prepend piece r ≠ .error (.tooDeep bracket) := fun h => no (map_eq_error h)
  fun_induction pieces opening t <;> first
    | exact kept (by assumption)
    | simp [complain]

theorem string_ne_tooDeep (t : Text) (bracket : Bracket) :
    string t ≠ .error (.tooDeep bracket) :=
  fun h => pieces_ne_tooDeep (t.length + 1) t bracket (map_eq_error h)

theorem scalar_ne_tooDeep (t : Text) (bracket : Bracket) :
    scalar t ≠ .error (.tooDeep bracket) := by
  rw [scalar.eq_def]
  split
  · next t => exact fun h => string_ne_tooDeep t bracket (map_eq_error h)
  · split
    · simp
    · split
      · next n rest _ => exact fun h => number_ne_tooDeep n bracket (map_eq_error h)
      · simp [complain]

/-- Of the texts that a reader finds too deep, those reach beyond a bound
that it meets with `level` brackets open. -/
def Bounded {α : Type} (read : Text → Result α) (level bound : Nat) : Prop :=
  ∀ t bracket, read t = .error (.tooDeep bracket) → bound < deepest .outside level t

variable {α : Type} {item : Text → Result α} {closing : CodePoint} {level bound : Nat}

/-- What an item reader takes away does not hide any nesting. -/
theorem deepest_of_sound {k : α → Phrase} (sound : Sound item fun u v => Derives u (k v))
    {t rest : Text} {v : α} (read : item t = .ok (v, rest)) (level : Nat) :
    deepest .outside level rest ≤ deepest .outside level t := by
  obtain ⟨u, rfl, derived⟩ := sound t v rest read
  exact deepest_derives derived level rest

theorem items_bounded {k : α → Phrase} (sound : Sound item fun u v => Derives u (k v))
    (bounded : Bounded item level bound) (fuel : Nat) :
    Bounded (items item closing fuel) level bound := by
  induction fuel with
  | zero => intro t bracket h; simp [items, complain] at h
  | succ fuel ih =>
    intro t bracket h
    rw [items] at h
    cases read : item t with
    | error fault =>
      simp only [read, bind, Except.bind, Except.error.injEq] at h
      exact bounded t bracket (by rw [read, h])
    | ok first =>
      obtain ⟨v, t'⟩ := first
      simp only [read, bind, Except.bind] at h
      refine Nat.lt_of_lt_of_le ?_ (deepest_of_sound sound read level)
      rw [← deepest_skipBlanks]
      split at h
      · simp [complain] at h
      · next p t'' found =>
        split at h
        · simp at h
        · split at h
          · next comma =>
            rw [found, comma, deepest_comma, ← deepest_skipBlanks]
            split at h
            · next fault read' => exact ih _ bracket (by rw [read', Except.error.inj h])
            · simp at h
          · simp [complain] at h

theorem bracketed_bounded {k : α → Phrase} (sound : Sound item fun u v => Derives u (k v))
    (bounded : Bounded item level bound) : Bounded (bracketed item closing) level bound := by
  intro t bracket h
  rw [← deepest_skipBlanks]
  rw [bracketed] at h
  split at h
  · next found =>
    rw [found]
    exact items_bounded sound bounded 1 _ bracket h
  · next p t' found =>
    rw [found]
    split at h
    · simp at h
    · exact items_bounded sound bounded _ _ bracket h

theorem member_bounded {value : Text → Result Json} (bounded : Bounded value level bound) :
    Bounded (member value) level bound := by
  intro t bracket h
  rw [member.eq_def] at h
  split at h
  · next t =>
    cases named : string t with
    | error fault =>
      simp only [named, bind, Except.bind, Except.error.injEq] at h
      exact absurd (by rw [named, h]) (string_ne_tooDeep t bracket)
    | ok r =>
      obtain ⟨name, t'⟩ := r
      simp only [named, bind, Except.bind] at h
      obtain ⟨u, rfl, chars⟩ := string_eq_ok_iff.1 named
      rw [deepest_string chars, ← deepest_skipBlanks]
      split at h
      · next t'' colon =>
        rw [colon, deepest_colon, ← deepest_skipBlanks]
        split at h
        · next fault read => exact bounded _ bracket (by rw [read, Except.error.inj h])
        · simp at h
      · simp [complain] at h
  · simp [complain] at h

/-- **Too deep is what nests deeper than is read.** -/
theorem value_bounded (depth level : Nat) : Bounded (value depth) level (level + depth) := by
  induction depth generalizing level with
  | zero =>
    intro t bracket h
    rw [value.eq_def] at h
    simp only at h
    split at h
    · rw [deepest_open (.inl rfl)]
      exact level_le_deepest _ _ _
    · rw [deepest_open (.inr rfl)]
      exact level_le_deepest _ _ _
    · exact absurd h (scalar_ne_tooDeep t bracket)
  | succ depth ih =>
    intro t bracket h
    -- inside a bracket one more is open, and one less may be opened
    have inner : Bounded (value depth) (level + 1) (level + (depth + 1)) := by
      have := ih (level + 1)
      rwa [Nat.add_right_comm, Nat.add_assoc] at this
    rw [value.eq_def] at h
    simp only at h
    split at h
    · rw [deepest_open (.inl rfl)]
      exact bracketed_bounded (value_sound depth) inner _ bracket (map_eq_error h)
    · rw [deepest_open (.inr rfl)]
      exact bracketed_bounded (member_sound (value_sound depth)) (member_bounded inner) _ bracket
        (map_eq_error h)
    · exact absurd h (scalar_ne_tooDeep t bracket)

end Reader

end QueryConsole.Json
