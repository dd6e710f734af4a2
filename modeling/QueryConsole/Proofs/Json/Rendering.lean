import QueryConsole.Proofs.Json.Showable
import QueryConsole.Proofs.Json.WrittenNumbers
/-!
# What is shown is JSON

The text that a value is shown as derives the value (`derives_prettyAt`).
Blanks and ends of lines are put where the grammar has blanks, and what a
string holds is escaped so far as the grammar asks for it. `render_eq` says
that such a value is never refused.
-/

namespace QueryConsole.Json

open Grammar Reader

/-! ## Strings -/

theorem hexDigit_lt {n : Nat} (h : n < 16) : HexDigit (Text.hexDigit n) n := by
  rw [Text.hexDigit]
  by_cases decimal : n < 10
  · rw [if_pos decimal]
    exact .decimal ⟨n, decimal⟩
  · have digit := HexDigit.small ⟨n - 10, by omega⟩
    have place : 0x61 + (n - 10) = 87 + n := by omega
    have value : 10 + (n - 10) = n := by omega
    simp only [place, value] at digit
    rwa [if_neg decimal]

/-- A code point is written by number with four digits, unless it is beyond
the first 65536. -/
theorem numbered_hex {p : CodePoint} (small : p.value < 0x10000) :
    Numbered (Text.ofString "\\u" ++ Text.hex 4 p.value) p := by
  have four : Text.hex 4 p.value = [Text.hexDigit (p.value / 16 / 16 / 16 % 16),
      Text.hexDigit (p.value / 16 / 16 % 16), Text.hexDigit (p.value / 16 % 16),
      Text.hexDigit (p.value % 16)] := rfl
  rw [four]
  refine .mk (hexDigit_lt (by omega)) (hexDigit_lt (by omega)) (hexDigit_lt (by omega))
    (hexDigit_lt (by omega)) ?_
  omega

/-- A code point as it is shown in a string, before the rest of the string. -/
theorem chars_escape (p : CodePoint) {u t : Text} (h : Chars u t) :
    Chars (Printer.escape (fun p => [p]) p ++ u) (p :: t) := by
  have lettered (c d : Char) (mem : (c, d) ∈ escapes) :
      Chars (.scalar '\\' :: .scalar c :: u) (.scalar d :: t) := .lettered mem h
  fun_cases Printer.escape (fun p => [p]) p with
  | case1 same => exact same ▸ lettered '"' '"' (by decide)
  | case2 _ same => exact same ▸ lettered '\\' '\\' (by decide)
  | case3 _ _ same => exact same ▸ lettered 'n' '\n' (by decide)
  | case4 _ _ _ same => exact same ▸ lettered 'r' '\r' (by decide)
  | case5 _ _ _ _ same => exact same ▸ lettered 't' '\t' (by decide)
  | case6 _ _ _ _ _ same => exact same ▸ lettered 'f' '\x0c' (by decide)
  | case7 _ _ _ _ _ _ same => exact same ▸ lettered 'b' '\x08' (by decide)
  | case8 _ _ _ _ _ _ _ control =>
    refine .numbered (numbered_hex (by omega)) (fun _ _ _ _ _ high => ?_) h
    cases p with
    | scalar c => simp [CodePoint.isHigh] at high
    | surrogate offset =>
      simp only [CodePoint.value] at control
      omega
  | case9 quote backslash _ _ _ _ _ control =>
    exact .plain quote backslash (Nat.le_of_not_lt control) h

/-- **What is shown between quotation marks denotes the text.** -/
theorem chars_quoteReadable (t : Text) : Chars (t.flatMap (Printer.escape fun p => [p])) t := by
  induction t with
  | nil => exact .nil
  | cons p t ih =>
    rw [List.flatMap_cons]
    exact chars_escape p ih

theorem quoteReadable_eq (t : Text) :
    Printer.quoteReadable t =
      .scalar '"' :: (t.flatMap (Printer.escape fun p => [p]) ++ [.scalar '"']) := rfl

/-! ## Values -/

theorem blanks_newline (level : Nat) : Blanks (Printer.newline level) := by
  intro p mem
  rcases List.mem_cons.1 mem with rfl | mem
  · decide
  · rw [List.eq_of_mem_replicate mem]
    decide

theorem derives_float {x : Binary64} (h : x.IsDouble) :
    Derives (Printer.float x) (.value (.float x)) := by
  cases x with
  | nan => exact .word (show ("NaN", _) ∈ Grammar.words by simp [Grammar.words])
  | infinite negative =>
    cases negative with
    | false => exact .word (show ("Infinity", _) ∈ Grammar.words by simp [Grammar.words])
    | true => exact .word (show ("-Infinity", _) ∈ Grammar.words by simp [Grammar.words])
  | finite negative quanta =>
    obtain ⟨n, spelled, amount⟩ := number_text (h negative quanta rfl)
    exact .number spelled amount

theorem derives_int {i : Int} (short : (Digits.ofNat i.natAbs).length ≤ 4300) :
    Derives (Text.ofInt i) (.value (.int i)) := by
  obtain ⟨n, spelled, fraction, exponent, whole, value⟩ := number_ofInt i
  have amount := Amount.integer fraction exponent (whole ▸ short)
  rw [value] at amount
  exact .number spelled amount

/-- The items of an array, each on a line of its own, and the last line. -/
theorem derives_prettyItems {level : Nat} {a : Text} (blanks : Blanks a) {v : Json}
    {vs : List Json} (h : ∀ w ∈ v :: vs, Derives (prettyAt level w) (.value w)) :
    Derives (prettyAt level v ++ (prettyItems level vs ++ a)) (.items (v :: vs)) := by
  induction vs generalizing v with
  | nil => exact .lastItem (h v List.mem_cons_self) blanks
  | cons w vs ih =>
    have others := ih fun x mem => h x (List.mem_cons_of_mem v mem)
    have nothing : Blanks [] := by simp [Blanks]
    have := Derives.item (h v List.mem_cons_self) nothing (blanks_newline level) others
    simpa [prettyItems, Text.ofChar] using this

/-- A member as it is shown. -/
theorem derives_prettyMember {level : Nat} (name : Text) {v : Json}
    (h : Derives (prettyAt level v) (.value v)) :
    Derives (Printer.quoteReadable name ++ (": " ++ prettyAt level v)) (.member (name, v)) := by
  have nothing : Blanks [] := by simp [Blanks]
  have blank : Blanks (Text.ofString " ") := by
    intro p mem
    rw [List.mem_singleton.1 mem]
    decide
  have := Derives.member (chars_quoteReadable name) nothing blank h
  rw [quoteReadable_eq]
  simpa [Text.ofString] using this

/-- The members of an object, each on a line of its own, and the last line. -/
theorem derives_prettyMembers {level : Nat} {a : Text} (blanks : Blanks a) {m : Text × Json}
    {ms : Members} (h : ∀ n ∈ m :: ms, Derives (prettyAt level n.2) (.value n.2)) :
    Derives (Printer.quoteReadable m.1 ++ (": " ++ prettyAt level m.2) ++
      (prettyMembers level ms ++ a)) (.members (m :: ms)) := by
  induction ms generalizing m with
  | nil => exact .lastMember (derives_prettyMember m.1 (h m List.mem_cons_self)) blanks
  | cons n ms ih =>
    have others := ih fun x mem => h x (List.mem_cons_of_mem m mem)
    have nothing : Blanks [] := by simp [Blanks]
    have := Derives.nextMember (derives_prettyMember m.1 (h m List.mem_cons_self)) nothing
      (blanks_newline level) others
    simpa [prettyMembers, Text.ofChar] using this

/-- **What a value is shown as derives the value.** -/
theorem derives_prettyAt {v : Json} (h : Showable v) (level : Nat) :
    Derives (prettyAt level v) (.value v) := by
  induction h generalizing level with
  | null => exact .word (show ("null", _) ∈ Grammar.words by simp [Grammar.words])
  | @bool b =>
    cases b with
    | false => exact .word (show ("false", _) ∈ Grammar.words by simp [Grammar.words])
    | true => exact .word (show ("true", _) ∈ Grammar.words by simp [Grammar.words])
  | int short => exact derives_int short
  | float double => exact derives_float double
  | @string t => exact .string (chars_quoteReadable t)
  | @array vs _ ih =>
    cases vs with
    | nil => exact .emptyArray (b := []) (by simp [Blanks])
    | cons v vs =>
      have := Derives.array (blanks_newline (level + 1))
        (derives_prettyItems (blanks_newline level) fun w mem => ih w mem (level + 1))
      simpa [prettyAt, Text.ofChar] using this
  | @object ms nodup _ ih =>
    cases ms with
    | nil => exact .emptyObject (b := []) (by simp [Blanks])
    | cons m ms =>
      -- no name stands twice, so the members are those that are written
      have merged := Members.ofList_of_nodup nodup ▸ Members.merged_ofList (m :: ms)
      have := Derives.object (blanks_newline (level + 1))
        (derives_prettyMembers (blanks_newline level) fun n mem => ih n mem (level + 1)) merged
      simpa [prettyAt, Text.ofChar] using this

/-! ## Nothing is refused -/

theorem areItemsWritable_eq {vs : List Json} (h : ∀ v ∈ vs, v.isWritable = true) :
    areItemsWritable vs = true := by
  induction vs with
  | nil => rfl
  | cons v vs ih =>
    rw [areItemsWritable, h v List.mem_cons_self, ih fun w mem => h w (List.mem_cons_of_mem v mem)]
    rfl

theorem areMembersWritable_eq {ms : Members} (h : ∀ m ∈ ms, m.2.isWritable = true) :
    areMembersWritable ms = true := by
  induction ms with
  | nil => rfl
  | cons m ms ih =>
    rw [areMembersWritable, h m List.mem_cons_self, ih fun n mem => h n (List.mem_cons_of_mem m mem)]
    rfl

theorem isWritable_of_showable {v : Json} (h : Showable v) : v.isWritable = true := by
  induction h with
  | null => rfl
  | bool => rfl
  | int short => exact decide_eq_true short
  | float _ => rfl
  | string => rfl
  | array _ ih => exact areItemsWritable_eq ih
  | object _ _ ih => exact areMembersWritable_eq ih

/-- **What can be shown is not refused.** -/
theorem render_eq {v : Json} (h : Showable v) : v.render = .ok v.pretty := by
  rw [render, if_pos (isWritable_of_showable h)]

end QueryConsole.Json
