import QueryConsole.Proofs.Json.Documents
import QueryConsole.Proofs.Json.Rendering
import QueryConsole.Proofs.Text.Utf8
/-!
# What is shown is read back

The text that a value is shown as derives the value, so it is read as the
value (`read_pretty`) if it is not too deep and its bytes are taken for what
they are. It nests no deeper than the value does (`within_prettyAt`), and
its bytes are taken for UTF-8, since it begins with a character of ASCII and
holds no zero (`decodeBody_pretty`).
-/

namespace QueryConsole.Json

open Grammar Reader

/-! ## Depth -/

mutual

/-- How many arrays and objects of a value are inside each other. -/
def depth : Json → Nat
  | .array vs => itemsDepth vs + 1
  | .object ms => membersDepth ms + 1
  | _ => 0

/-- The depth of the deepest of these items. -/
def itemsDepth : List Json → Nat
  | [] => 0
  | v :: vs => max (depth v) (itemsDepth vs)

/-- The depth of the deepest of these members. -/
def membersDepth : List (Text × Json) → Nat
  | [] => 0
  | (_, v) :: ms => max (depth v) (membersDepth ms)

end

/-- A text that opens at most `n` brackets at once, and closes them again. -/
def Within (u : Text) (n : Nat) : Prop :=
  ∀ level t, deepest .outside level (u ++ t) ≤ max (level + n) (deepest .outside level t)

theorem Within.of_plain {u : Text} (plain : Plain u) (n : Nat) : Within u n := by
  intro level t
  rw [deepest_plain plain]
  exact Nat.le_max_right _ _

theorem Within.mono {u : Text} {n m : Nat} (h : Within u n) (le : n ≤ m) : Within u m := by
  intro level t
  have := h level t
  omega

theorem Within.append {u w : Text} {n : Nat} (h : Within u n) (h' : Within w n) :
    Within (u ++ w) n := by
  intro level t
  rw [List.append_assoc]
  have first := h level (w ++ t)
  have second := h' level t
  omega

theorem Within.brackets {p q : CodePoint} {u : Text} {n : Nat}
    (opens : p = .scalar '[' ∨ p = .scalar '\x7b') (closes : q = .scalar ']' ∨ q = .scalar '\x7d')
    (h : Within u n) : Within (p :: (u ++ [q])) (n + 1) := by
  intro level t
  have inner := h (level + 1) (q :: t)
  rw [deepest_close closes] at inner
  rw [List.cons_append, List.append_assoc, List.singleton_append, deepest_open opens]
  omega

theorem within_string (t : Text) (n : Nat) : Within (Printer.quoteReadable t) n := by
  intro level rest
  rw [quoteReadable_eq, List.cons_append, List.append_assoc, List.singleton_append,
    deepest_string (chars_quoteReadable t)]
  exact Nat.le_max_right _ _

/-- What is no array and no object has no brackets. -/
theorem within_of_derives {u : Text} {v : Json} (h : Derives u (.value v)) (flat : v.depth = 0)
    (n : Nat) : Within u n := by
  cases h with
  | word mem => exact .of_plain (plain_word mem) n
  | number spelled _ => exact .of_plain (plain_number spelled) n
  | string chars =>
    intro level rest
    rw [List.cons_append, List.append_assoc, List.singleton_append, deepest_string chars]
    exact Nat.le_max_right _ _
  | emptyArray _ => simp [depth] at flat
  | array _ _ => simp [depth] at flat
  | emptyObject _ => simp [depth] at flat
  | object _ _ _ => simp [depth] at flat

theorem within_newline (level n : Nat) : Within (Printer.newline level) n :=
  .of_plain (plain_blanks (blanks_newline level)) n

theorem within_comma (n : Nat) : Within (Text.ofChar ',') n :=
  .of_plain (by unfold Plain; decide) n

theorem within_prettyItems {level : Nat} {vs : List Json}
    (h : ∀ w ∈ vs, Within (prettyAt level w) w.depth) :
    Within (prettyItems level vs) (itemsDepth vs) := by
  induction vs with
  | nil => exact .of_plain (by simp [prettyItems, Plain]) _
  | cons v vs ih =>
    have others := ih fun w mem => h w (List.mem_cons_of_mem v mem)
    rw [prettyItems, itemsDepth]
    refine .append (.append (.append ?_ ?_) ?_) ?_
    · exact within_comma _
    · exact within_newline level _
    · exact (h v List.mem_cons_self).mono (Nat.le_max_left _ _)
    · exact others.mono (Nat.le_max_right _ _)

theorem within_prettyMember {level n : Nat} (name : Text) {v : Json}
    (h : Within (prettyAt level v) n) :
    Within (Printer.quoteReadable name ++ ": " ++ prettyAt level v) n :=
  .append (.append (within_string name n) (.of_plain (by unfold Plain; decide) n)) h

theorem within_prettyMembers {level : Nat} {ms : Members}
    (h : ∀ m ∈ ms, Within (prettyAt level m.2) m.2.depth) :
    Within (prettyMembers level ms) (membersDepth ms) := by
  induction ms with
  | nil => exact .of_plain (by simp [prettyMembers, Plain]) _
  | cons m ms ih =>
    obtain ⟨name, v⟩ := m
    have others := ih fun n mem => h n (List.mem_cons_of_mem _ mem)
    have value := (h (name, v) List.mem_cons_self).mono (Nat.le_max_left _ (membersDepth ms))
    have member := within_prettyMember name value
    have start := (within_comma (max v.depth (membersDepth ms))).append (within_newline level _)
    have := (start.append member).append (others.mono (Nat.le_max_right _ _))
    rw [prettyMembers, membersDepth]
    simpa only [List.append_assoc] using this

/-- **What a value is shown as nests no deeper than the value.** -/
theorem within_prettyAt {v : Json} (h : Showable v) (level : Nat) :
    Within (prettyAt level v) v.depth := by
  induction h generalizing level with
  | null => exact within_of_derives (derives_prettyAt .null level) rfl _
  | bool => exact within_of_derives (derives_prettyAt .bool level) rfl _
  | int short => exact within_of_derives (derives_prettyAt (.int short) level) rfl _
  | float double => exact within_of_derives (derives_prettyAt (.float double) level) rfl _
  | string => exact within_of_derives (derives_prettyAt .string level) rfl _
  | @array vs _ ih =>
    cases vs with
    | nil => exact (Within.of_plain (u := []) (by simp [Plain]) 0).brackets (.inl rfl) (.inl rfl)
    | cons v vs =>
      -- between the brackets the depth is that of the deepest item
      have first := (ih v List.mem_cons_self (level + 1)).mono (Nat.le_max_left _ (itemsDepth vs))
      have others := (within_prettyItems fun w mem =>
        ih w (List.mem_cons_of_mem v mem) (level + 1)).mono (Nat.le_max_right v.depth _)
      have := (((within_newline (level + 1) _).append (first.append others)).append
        (within_newline level _)).brackets (.inl rfl) (.inl rfl)
      simpa [prettyAt, depth, itemsDepth, Text.ofChar] using this
  | @object ms _ _ ih =>
    cases ms with
    | nil => exact (Within.of_plain (u := []) (by simp [Plain]) 0).brackets (.inr rfl) (.inr rfl)
    | cons m ms =>
      obtain ⟨name, v⟩ := m
      have value := (ih (name, v) List.mem_cons_self (level + 1)).mono
        (Nat.le_max_left _ (membersDepth ms))
      have first := within_prettyMember name value
      have others := (within_prettyMembers fun n mem =>
        ih n (List.mem_cons_of_mem _ mem) (level + 1)).mono (Nat.le_max_right v.depth _)
      have := (((within_newline (level + 1) _).append (first.append others)).append
        (within_newline level _)).brackets (.inr rfl) (.inr rfl)
      simpa [prettyAt, depth, membersDepth, Text.ofChar] using this

theorem nesting_pretty {v : Json} (h : Showable v) : nesting v.pretty ≤ v.depth := by
  have := within_prettyAt h 0 0 []
  simpa [nesting, deepest, pretty] using this

/-! ## No zeros

No document holds the code point zero, by which the encodings of a body are
told apart. -/

theorem ne_zero_of_numbered {e : Text} {p : CodePoint} (h : Numbered e p) :
    ∀ c ∈ e, c.value ≠ 0 := by
  have digit {c : CodePoint} {n : Nat} (h : HexDigit c n) : c.value ≠ 0 := by
    cases h with
    | decimal n => revert n; decide
    | small n => revert n; decide
    | capital n => revert n; decide
  cases h with
  | mk ha hb hc hd _ =>
    simp only [List.forall_mem_cons]
    exact ⟨by decide, by decide, digit ha, digit hb, digit hc, digit hd, by simp⟩

theorem ne_zero_of_chars {u t : Text} (h : Chars u t) : ∀ c ∈ u, c.value ≠ 0 := by
  induction h with
  | nil => simp
  | plain _ _ visible _ ih => exact List.forall_mem_cons.2 ⟨by omega, ih⟩
  | lettered letter _ ih =>
    have all : ∀ e ∈ escapes, (CodePoint.scalar e.1).value ≠ 0 := by decide
    exact List.forall_mem_cons.2 ⟨by decide, List.forall_mem_cons.2 ⟨all _ letter, ih⟩⟩
  | pair high low _ _ _ _ ih =>
    simp only [List.forall_mem_append]
    exact ⟨ne_zero_of_numbered high, ne_zero_of_numbered low, ih⟩
  | numbered escape _ _ ih =>
    simp only [List.forall_mem_append]
    exact ⟨ne_zero_of_numbered escape, ih⟩

theorem ne_zero_of_blanks {b : Text} (h : Blanks b) : ∀ c ∈ b, c.value ≠ 0 := by
  have all : ∀ p ∈ Text.ofString " \t\n\r", p.value ≠ 0 := by decide
  exact fun c mem => all c (h c mem)

theorem ne_zero_of_derives {u : Text} {p : Phrase} (h : Derives u p) : ∀ c ∈ u, c.value ≠ 0 := by
  induction h with
  | word mem =>
    have all : ∀ w ∈ Grammar.words, ∀ c ∈ Text.ofString w.1, c.value ≠ 0 := by decide
    exact all _ mem
  | number spelled _ =>
    have all : ∀ c ∈ Text.ofString "0123456789+-.eE", c.value ≠ 0 := by decide
    exact fun c mem => all c (mem_number spelled mem)
  | string chars =>
    simp only [List.forall_mem_cons, List.forall_mem_append]
    exact ⟨by decide, ne_zero_of_chars chars, by decide, by simp⟩
  | emptyArray blanks =>
    simp only [List.forall_mem_cons, List.forall_mem_append]
    exact ⟨by decide, ne_zero_of_blanks blanks, by decide, by simp⟩
  | array blanks _ ih =>
    simp only [List.forall_mem_cons, List.forall_mem_append]
    exact ⟨by decide, ne_zero_of_blanks blanks, ih, by decide, by simp⟩
  | emptyObject blanks =>
    simp only [List.forall_mem_cons, List.forall_mem_append]
    exact ⟨by decide, ne_zero_of_blanks blanks, by decide, by simp⟩
  | object blanks _ _ ih =>
    simp only [List.forall_mem_cons, List.forall_mem_append]
    exact ⟨by decide, ne_zero_of_blanks blanks, ih, by decide, by simp⟩
  | lastItem _ blanks ih =>
    exact List.forall_mem_append.2 ⟨ih, ne_zero_of_blanks blanks⟩
  | item _ blanks blanks' _ ih ih' =>
    simp only [List.forall_mem_cons, List.forall_mem_append]
    exact ⟨ih, ne_zero_of_blanks blanks, by decide, ne_zero_of_blanks blanks', ih'⟩
  | member chars blanks blanks' _ ih =>
    simp only [List.forall_mem_cons, List.forall_mem_append]
    exact ⟨by decide, ne_zero_of_chars chars, by decide, ne_zero_of_blanks blanks, by decide,
      ne_zero_of_blanks blanks', ih⟩
  | lastMember _ blanks ih =>
    exact List.forall_mem_append.2 ⟨ih, ne_zero_of_blanks blanks⟩
  | nextMember _ blanks blanks' _ ih ih' =>
    simp only [List.forall_mem_cons, List.forall_mem_append]
    exact ⟨ih, ne_zero_of_blanks blanks, by decide, ne_zero_of_blanks blanks', ih'⟩

/-- What begins like a value begins with a character of ASCII. -/
theorem ascii_of_opening {c : CodePoint} (h : c ∈ openings) : c.value < 0x80 := by
  have all : ∀ p ∈ openings, p.value < 0x80 := by decide
  exact all c h

/-- **The bytes of what is shown are read as it**: they are in UTF-8, and
do not look like anything else. -/
theorem decodeBody_pretty {v : Json} (h : Showable v) :
    Encoding.decodeBody (Utf8.encode v.pretty) = .ok v.pretty := by
  have derived := derives_prettyAt h 0
  obtain ⟨c, t, same, opening⟩ := Opens.of_derives derived
  have positive := ne_zero_of_derives derived
  rw [pretty, same]
  rw [same] at positive
  exact Utf8.decodeBody_encode (ascii_of_opening opening) positive

/-! ## Reading back -/

theorem document_pretty {v : Json} (h : Showable v) : Document v.pretty v := by
  have nothing : Blanks [] := by simp [Blanks]
  have document := Document.mk nothing (derives_prettyAt h 0) nothing
  rwa [List.nil_append, List.append_nil] at document

/-- **What a value is shown as reads as the value.** -/
theorem read_pretty {v : Json} (h : Showable v) (shallow : v.depth ≤ Reader.maxDepth) :
    read v.pretty = .ok v :=
  (read_eq_ok_iff (Nat.le_trans (nesting_pretty h) shallow) v).2 (document_pretty h)

/-- No other value is shown so, however deep it may be. -/
theorem eq_of_pretty_eq {v w : Json} (h : Showable v) (shallow : v.depth ≤ Reader.maxDepth)
    (h' : Showable w) (same : w.pretty = v.pretty) : w = v := by
  have nests : nesting v.pretty ≤ Reader.maxDepth := Nat.le_trans (nesting_pretty h) shallow
  have first := (read_eq_ok_iff nests w).2 (same ▸ document_pretty h')
  have second := read_pretty h shallow
  rw [first] at second
  exact Except.ok.inj second

end QueryConsole.Json
