import QueryConsole.Proofs.Json.Members
import QueryConsole.Proofs.Json.Numerals
import QueryConsole.Proofs.Number.Rounding
/-!
# Values that can be shown

Not every value can be written and read back: an integer may be too long to
be written, a magnitude may be none, and a name may stand twice in an
object. `Showable` excludes these, at every depth, and
`showable_of_derives` says that no document holds them.
-/

namespace QueryConsole.Json

open Grammar

/-- **A value that can be shown.** Writing an integer of more than 4300
digits is refused, and no other value is; `float` and `object` say what
makes the written form read back as the value. -/
inductive Showable : Json → Prop
  | null : Showable .null
  | bool {b : Bool} : Showable (.bool b)
  | int {i : Int} : (Digits.ofNat i.natAbs).length ≤ 4300 → Showable (.int i)
  | float {x : Binary64} : x.IsDouble → Showable (.float x)
  | string {t : Text} : Showable (.string t)
  | array {vs : List Json} : (∀ v ∈ vs, Showable v) → Showable (.array vs)
  | object {ms : Members} : (ms.map Prod.fst).Nodup → (∀ m ∈ ms, Showable m.2) →
      Showable (.object ms)

/-- A part of a document of which all values can be shown. -/
def Grammar.Phrase.Showable : Phrase → Prop
  | .value v => v.Showable
  | .items vs => ∀ v ∈ vs, v.Showable
  | .member m => m.2.Showable
  | .members ms => ∀ m ∈ ms, m.2.Showable

theorem showable_word {name : String} {v : Json} (mem : (name, v) ∈ words) : v.Showable := by
  simp only [words, List.mem_cons, Prod.mk.injEq, List.not_mem_nil, or_false] at mem
  rcases mem with ⟨-, rfl⟩ | ⟨-, rfl⟩ | ⟨-, rfl⟩ | ⟨-, rfl⟩ | ⟨-, rfl⟩ | ⟨-, rfl⟩
  · exact .null
  · exact .bool
  · exact .bool
  · exact .float (by rintro _ _ ⟨⟩)
  · exact .float (Binary64.isDouble_infinite false)
  · exact .float (Binary64.isDouble_infinite true)

/-- No digit is added by reading digits as a number. -/
theorem length_ofNat_toNat {ds : List Digit} {k : Nat} (positive : 0 < k) (short : ds.length ≤ k) :
    (Digits.ofNat (Digits.toNat ds)).length ≤ k :=
  (Digits.length_le_iff positive).2 (Nat.lt_of_lt_of_le (Digits.toNat_lt ds)
    (Nat.pow_le_pow_right (by omega) short))

theorem showable_amount {n : Numeral} {v : Json} (h : Amount n v) : v.Showable := by
  cases h with
  | integer _ _ short =>
    have magnitude : n.toInt.natAbs = Digits.toNat n.whole := by
      rw [Numeral.toInt]
      split <;> simp
    refine .int ?_
    rw [magnitude]
    exact length_ofNat_toNat (by omega) short
  | float _ => exact .float (Binary64.isDouble_ofDecimal _ _ _)

theorem mem_of_lookup {ms : Members} {name : Text} {v : Json} (h : ms.lookup name = some v) :
    (name, v) ∈ ms := by
  obtain ⟨before, after, rfl, -⟩ := List.lookup_eq_some_iff.1 h
  simp

/-- **What a document holds can be shown.** -/
theorem showable_of_derives {u : Text} {p : Phrase} (h : Derives u p) : p.Showable := by
  induction h with
  | word mem => exact showable_word mem
  | number _ amount => exact showable_amount amount
  | string _ => exact .string
  | emptyArray _ => exact .array (by simp)
  | array _ _ ih => exact .array ih
  | emptyObject _ => exact .object (by simp) (by simp)
  | @object b u written members _ _ merged ih =>
    refine .object (merged.unique ▸ Members.nodup_ofList written) fun m mem => ?_
    exact ih m (List.mem_reverse.1 (mem_of_lookup (merged.values m mem)))
  | lastItem _ _ ih =>
    intro v mem
    rw [List.mem_singleton.1 mem]
    exact ih
  | item _ _ _ _ ih ih' =>
    intro v mem
    rcases List.mem_cons.1 mem with rfl | mem
    · exact ih
    · exact ih' v mem
  | member _ _ _ _ ih => exact ih
  | lastMember _ _ ih =>
    intro m mem
    rw [List.mem_singleton.1 mem]
    exact ih
  | nextMember _ _ _ _ ih ih' =>
    intro m mem
    rcases List.mem_cons.1 mem with rfl | mem
    · exact ih
    · exact ih' m mem

end QueryConsole.Json
