import QueryConsole.Proofs.Json.Members
import QueryConsole.Proofs.Json.Numerals
import QueryConsole.Proofs.Json.Strings
/-!
# What is read is derived

The reader against the grammar, in the one direction: what it takes from a
text derives the value it gives. The parts without parts of their own come
first. Items and members are read by one function, so there is one lemma
for both (`items_sound`), stated for any grammar of lists; `value_sound`
is then an induction on the depth.
-/

namespace QueryConsole.Json.Reader

open Grammar

/-! ## Blanks and words -/

theorem isBlank_iff {p : CodePoint} : isBlank p = true ↔ p ∈ Text.ofString " \t\n\r" := by
  simp [isBlank, Text.ofString, or_assoc]

theorem skipBlanks_sound (t : Text) : ∃ b, t = b ++ skipBlanks t ∧ Blanks b := by
  refine ⟨t.takeWhile isBlank, (List.takeWhile_append_dropWhile).symm, fun p mem => ?_⟩
  exact isBlank_iff.1 (List.all_eq_true.1 (List.all_takeWhile) p mem)

theorem dropStart?_eq_some {start t rest : Text} :
    Text.dropStart? start t = some rest ↔ t = start ++ rest := by
  fun_induction Text.dropStart? start t with
  | case1 t => simp
  | case2 p start => simp
  | case3 p start t ih => simp [ih]
  | case4 p start q t differ => simp [Ne.symm differ]

theorem word?_sound {t rest : Text} {v : Json} {ws : List (String × Json)}
    (h : word? t ws = some (v, rest)) : ∃ name, (name, v) ∈ ws ∧ t = Text.ofString name ++ rest := by
  induction ws with
  | nil => simp [word?] at h
  | cons w ws ih =>
    rw [word?] at h
    split at h
    · next rest' begins =>
      obtain ⟨rfl, rfl⟩ := Prod.mk.inj (Option.some.inj h)
      exact ⟨w.1, List.mem_cons_self, dropStart?_eq_some.1 begins⟩
    · obtain ⟨name, mem, same⟩ := ih h
      exact ⟨name, List.mem_cons_of_mem _ mem, same⟩

/-! ## Values without parts -/

theorem map_eq_ok {α β : Type} {r : Result α} {f : α → β} {b : β} {rest : Text}
    (h : (r.map fun (a, rest) => (f a, rest)) = .ok (b, rest)) :
    ∃ a, r = .ok (a, rest) ∧ f a = b := by
  cases r with
  | error fault => simp [Except.map] at h
  | ok read =>
    obtain ⟨rfl, rfl⟩ := Prod.mk.inj (Except.ok.inj h)
    exact ⟨read.1, rfl, rfl⟩

theorem scalar_sound {t rest : Text} {v : Json} (h : scalar t = .ok (v, rest)) :
    ∃ u, t = u ++ rest ∧ Derives u (.value v) := by
  rw [scalar.eq_def] at h
  split at h
  · next t =>
    obtain ⟨s, read, rfl⟩ := map_eq_ok h
    obtain ⟨u, rfl, chars⟩ := string_eq_ok_iff.1 read
    exact ⟨.scalar '"' :: (u ++ [.scalar '"']), by simp, .string chars⟩
  · split at h
    · next r word =>
      rw [Except.ok.inj h] at word
      obtain ⟨name, mem, same⟩ := word?_sound word
      exact ⟨_, same, .word mem⟩
    · split at h
      · next n rest' numeral =>
        obtain ⟨u, same, spelled⟩ := numeral?_sound numeral
        cases amount : number n with
        | error fault => rw [amount] at h; simp [Except.map] at h
        | ok w =>
          rw [amount] at h
          obtain ⟨rfl, rfl⟩ := Prod.mk.inj (Except.ok.inj h)
          exact ⟨u, same, .number spelled (number_eq_ok_iff.1 amount)⟩
      · simp [complain] at h

/-! ## Items and members -/

variable {α : Type} {D : Text → α → Prop} {L : Text → List α → Prop}

/-- A grammar of lists: `L` derives lists of what `D` derives, with commas
between them. -/
structure Lists (D : Text → α → Prop) (L : Text → List α → Prop) : Prop where
  last {u a : Text} {v : α} : D u v → Blanks a → L (u ++ a) [v]
  next {u a b r : Text} {v : α} {vs : List α} : D u v → Blanks a → Blanks b → L r vs →
    L (u ++ (a ++ .scalar ',' :: (b ++ r))) (v :: vs)

theorem lists_items :
    Lists (fun u v => Derives u (.value v)) (fun u vs => Derives u (.items vs)) :=
  ⟨.lastItem, .item⟩

theorem lists_members :
    Lists (fun u m => Derives u (.member m)) (fun u ms => Derives u (.members ms)) :=
  ⟨.lastMember, .nextMember⟩

/-- What an item reader takes derives what it gives. -/
def Sound (item : Text → Result α) (D : Text → α → Prop) : Prop :=
  ∀ t v rest, item t = .ok (v, rest) → ∃ u, t = u ++ rest ∧ D u v

variable {item : Text → Result α} {closing : CodePoint} {fuel : Nat} {t rest : Text}
  {vs : List α}

theorem items_sound (lists : Lists D L) (sound : Sound item D)
    (h : items item closing fuel t = .ok (vs, rest)) :
    ∃ u, t = u ++ closing :: rest ∧ L u vs := by
  -- a step takes one item and the comma after it
  induction fuel generalizing t vs with
  | zero => simp [items, complain] at h
  | succ fuel ih =>
    rw [items] at h
    cases read : item t with
    | error fault => simp [read, bind, Except.bind] at h
    | ok first =>
      obtain ⟨v, t'⟩ := first
      simp only [read, bind, Except.bind] at h
      obtain ⟨u, rfl, derived⟩ := sound t v t' read
      obtain ⟨a, after, blanks⟩ := skipBlanks_sound t'
      split at h
      · simp [complain] at h
      · next p t'' found =>
        rw [found] at after
        split at h
        · next close =>
          obtain ⟨rfl, rfl⟩ := Prod.mk.inj (Except.ok.inj h)
          exact ⟨u ++ a, by rw [after, close, List.append_assoc], lists.last derived blanks⟩
        · split at h
          · next comma =>
            obtain ⟨b, before, blanks'⟩ := skipBlanks_sound t''
            split at h
            · simp at h
            · next others read' =>
              obtain ⟨rfl, rfl⟩ := Prod.mk.inj (Except.ok.inj h)
              obtain ⟨r, same, derived'⟩ := ih read'
              refine ⟨_, ?_, lists.next derived blanks blanks' derived'⟩
              rw [after, comma, before, same]
              simp
          · simp [complain] at h

theorem bracketed_sound (lists : Lists D L) (sound : Sound item D)
    (h : bracketed item closing t = .ok (vs, rest)) :
    (∃ b, t = b ++ closing :: rest ∧ Blanks b ∧ vs = []) ∨
      ∃ b u, t = b ++ (u ++ closing :: rest) ∧ Blanks b ∧ L u vs := by
  obtain ⟨b, same, blanks⟩ := skipBlanks_sound t
  rw [bracketed] at h
  split at h
  · next found =>
    obtain ⟨u, nothing, -⟩ := items_sound lists sound h
    simp at nothing
  · next p t' found =>
    rw [found] at same
    split at h
    · next close =>
      obtain ⟨rfl, rfl⟩ := Prod.mk.inj (Except.ok.inj h)
      exact .inl ⟨b, by rw [same, close], blanks, rfl⟩
    · obtain ⟨u, same', derived⟩ := items_sound lists sound h
      exact .inr ⟨b, u, by rw [same, same'], blanks, derived⟩

theorem member_sound {value : Text → Result Json}
    (sound : Sound value fun u v => Derives u (.value v)) :
    Sound (member value) fun u m => Derives u (.member m) := by
  intro t m rest h
  rw [member.eq_def] at h
  split at h
  · next t =>
    cases named : string t with
    | error fault => simp [named, bind, Except.bind] at h
    | ok r =>
      obtain ⟨name, t'⟩ := r
      simp only [named, bind, Except.bind] at h
      obtain ⟨u, rfl, chars⟩ := string_eq_ok_iff.1 named
      obtain ⟨a, after, blanks⟩ := skipBlanks_sound t'
      split at h
      · next t'' colon =>
        obtain ⟨b, before, blanks'⟩ := skipBlanks_sound t''
        split at h
        · simp at h
        · next r read =>
          obtain ⟨rfl, rfl⟩ := Prod.mk.inj (Except.ok.inj h)
          obtain ⟨w, same, derived⟩ := sound _ _ _ read
          refine ⟨_, ?_, .member chars blanks blanks' derived⟩
          rw [after, colon, before, same]
          simp
      · simp [complain] at h
  · simp [complain] at h

/-! ## Values -/

/-- **What is read as a value derives it.** -/
theorem value_sound (depth : Nat) : Sound (value depth) fun u v => Derives u (.value v) := by
  -- the items between two brackets are read one level deeper
  induction depth with
  | zero =>
    intro t v rest h
    rw [value.eq_def] at h
    simp only at h
    split at h
    · simp at h
    · simp at h
    · exact scalar_sound h
  | succ depth ih =>
    intro t v rest h
    rw [value.eq_def] at h
    simp only at h
    split at h
    · next t =>
      obtain ⟨vs, read, rfl⟩ := map_eq_ok h
      rcases bracketed_sound lists_items ih read with
        ⟨b, rfl, blanks, rfl⟩ | ⟨b, u, rfl, blanks, derived⟩
      · exact ⟨_, by simp, .emptyArray blanks⟩
      · exact ⟨_, by simp, .array blanks derived⟩
    · next t =>
      obtain ⟨ms, read, rfl⟩ := map_eq_ok (f := fun ms => Json.object (Members.ofList ms)) h
      rcases bracketed_sound lists_members (member_sound ih) read with
        ⟨b, rfl, blanks, rfl⟩ | ⟨b, u, rfl, blanks, derived⟩
      · exact ⟨_, by simp, .emptyObject blanks⟩
      · exact ⟨_, by simp, .object blanks derived (Members.merged_ofList ms)⟩
    · exact scalar_sound h

end QueryConsole.Json.Reader
