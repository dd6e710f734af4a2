import Mathlib.Data.List.Induction
import QueryConsole.Proofs.Json.Grammar
/-!
# The members that an object keeps

An object that is written with a name twice keeps one member for it. The
reader puts one member after another into an object (`Members.ofList`);
the grammar says what has to come out (`Merged`). `merged_ofList` says that
the reader does that, and `Merged.unique` that nothing else can come out.
-/

namespace QueryConsole.Json

open Grammar

namespace Members

theorem lookup_cons (m : Text × Json) (ms : Members) (name : Text) :
    List.lookup name (m :: ms) = if name = m.1 then some m.2 else ms.lookup name := by
  by_cases same : name = m.1
  · rw [List.lookup_cons, if_pos same, beq_iff_eq.2 same]
  · rw [List.lookup_cons, if_neg same, beq_eq_false_iff_ne.2 same]

/-! ## Putting one member -/

theorem names_put (name : Text) (v : Json) (ms : Members) :
    (put name v ms).map Prod.fst =
      if name ∈ ms.map Prod.fst then ms.map Prod.fst else ms.map Prod.fst ++ [name] := by
  induction ms with
  | nil => simp [put]
  | cons m ms ih =>
    rw [put]
    by_cases same : m.1 = name
    · simp [same]
    · have same' : name ≠ m.1 := fun h => same h.symm
      simp only [if_neg same, List.map_cons, List.mem_cons, same', false_or, ih]
      split <;> rfl

theorem lookup_put (name other : Text) (v : Json) (ms : Members) :
    (put name v ms).lookup other = if other = name then some v else ms.lookup other := by
  induction ms with
  | nil =>
    by_cases same : other = name
    · simp [put, same]
    · simp [put, same]
  | cons m ms ih =>
    rw [put, lookup_cons]
    by_cases here : m.1 = name
    · rw [if_pos here, lookup_cons]
      simp only [here]
      split <;> rfl
    · rw [if_neg here, lookup_cons, ih]
      by_cases same : other = name
      · have differ : other ≠ m.1 := fun h => here (h.symm.trans same)
        rw [if_pos same, if_neg differ, if_pos same]
      · simp only [if_neg same]

/-- A new name is put at the end. -/
theorem put_of_not_mem {name : Text} (v : Json) {ms : Members} (new : name ∉ ms.map Prod.fst) :
    put name v ms = ms ++ [(name, v)] := by
  induction ms with
  | nil => rfl
  | cons m ms ih =>
    rw [List.map_cons, List.mem_cons, not_or] at new
    rw [put, if_neg fun h => new.1 h.symm, ih new.2, List.cons_append]

/-! ## Putting all of them -/

theorem ofList_concat (written : Members) (m : Text × Json) :
    ofList (written ++ [m]) = put m.1 m.2 (ofList written) := by
  rw [ofList, List.foldl_append]
  rfl

theorem names_ofList (written : Members) :
    (ofList written).map Prod.fst = (written.map Prod.fst).eraseDups := by
  induction written using List.reverseRecOn with
  | nil => rfl
  | append_singleton written m ih =>
    rw [ofList_concat, names_put, ih, List.map_append, List.eraseDups_append]
    simp only [List.mem_eraseDups]
    split
    · next old => simp [List.removeAll, old]
    · next new => simp [List.removeAll, new, List.eraseDups_cons]

theorem lookup_ofList (written : Members) (name : Text) :
    (ofList written).lookup name = written.reverse.lookup name := by
  induction written using List.reverseRecOn with
  | nil => rfl
  | append_singleton written m ih =>
    rw [ofList_concat, lookup_put, ih, List.reverse_append, List.reverse_singleton,
      List.singleton_append, lookup_cons]

theorem nodup_ofList (written : Members) : ((ofList written).map Prod.fst).Nodup := by
  induction written using List.reverseRecOn with
  | nil => simp [ofList]
  | append_singleton written m ih =>
    rw [ofList_concat, names_put]
    split
    · exact ih
    · next new =>
      refine List.nodup_append.2 ⟨ih, by simp, fun a ha b hb => ?_⟩
      rw [List.mem_singleton.1 hb]
      rintro rfl
      exact new ha

/-- Where no name stands twice, the value of each member is found. -/
theorem lookup_of_mem {ms : Members} (nodup : (ms.map Prod.fst).Nodup) {m : Text × Json}
    (mem : m ∈ ms) : ms.lookup m.1 = some m.2 := by
  induction ms with
  | nil => simp at mem
  | cons n ms ih =>
    rw [List.map_cons, List.nodup_cons] at nodup
    rw [lookup_cons]
    rcases List.mem_cons.1 mem with rfl | mem
    · rw [if_pos rfl]
    · have differ : m.1 ≠ n.1 := fun same => nodup.1 (same ▸ List.mem_map_of_mem mem)
      rw [if_neg differ, ih nodup.2 mem]

/-- **What the reader keeps is what the grammar says.** -/
theorem merged_ofList (written : Members) : Merged written (ofList written) where
  names := names_ofList written
  values m mem := by rw [← lookup_ofList, lookup_of_mem (nodup_ofList written) mem]

/-- Members without a name twice are all kept. -/
theorem ofList_of_nodup {ms : Members} (nodup : (ms.map Prod.fst).Nodup) : ofList ms = ms := by
  induction ms using List.reverseRecOn with
  | nil => rfl
  | append_singleton ms m ih =>
    rw [List.map_append, List.map_singleton, List.nodup_append] at nodup
    have new : m.1 ∉ ms.map Prod.fst := fun mem => nodup.2.2 _ mem _ (List.mem_singleton_self _) rfl
    rw [ofList_concat, ih nodup.1, put_of_not_mem _ new]

end Members

/-- Members with the same names in order are the same if each name has one
value. -/
theorem members_ext {ms ns : Members} (value? : Text → Option Json)
    (names : ms.map Prod.fst = ns.map Prod.fst) (hm : ∀ m ∈ ms, value? m.1 = some m.2)
    (hn : ∀ n ∈ ns, value? n.1 = some n.2) : ms = ns := by
  induction ms generalizing ns with
  | nil => exact (List.map_eq_nil_iff.1 names.symm).symm
  | cons m ms ih =>
    cases ns with
    | nil => simp at names
    | cons n ns =>
      obtain ⟨first, others⟩ := List.cons.inj names
      have second : m.2 = n.2 := by
        have := hn n List.mem_cons_self
        rw [← first, hm m List.mem_cons_self] at this
        exact Option.some.inj this
      rw [Prod.ext first second, ih others (fun x hx => hm x (List.mem_cons_of_mem m hx))
        (fun x hx => hn x (List.mem_cons_of_mem n hx))]

/-- **The members that an object keeps are determined by those written.** -/
theorem Grammar.Merged.unique {written ms : Members} (h : Merged written ms) :
    ms = Members.ofList written :=
  members_ext (fun name => written.reverse.lookup name)
    (h.names.trans (Members.merged_ofList written).names.symm) h.values
    (Members.merged_ofList written).values

end QueryConsole.Json
