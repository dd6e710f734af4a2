import Mathlib.Data.Finset.Card
import QueryConsole.Catalog.Cache
/-!
# What the cache remembers

A `Visit` is one lookup of a catalog, with the directory and the cache as
they are at that time. Visits that follow one another from an empty cache
(`Follow`) say all that the cache holds: the keys that were looked up
successfully, the latest first, as many as there is room for
(`Follow.keys_eq`), each with the catalog of its last successful load
(`Follow.kept`). How deep a key lies is the number of other keys that were
looked up successfully since (`recent_split`), and this says exactly when a
visit loads: `Follow.loads_iff`.
-/

namespace QueryConsole.Catalog

/-! ## One visit -/

/-- **A lookup of a catalog**, with the directory and the cache as they are. -/
structure Visit where
  directory : Directory
  key : Cache.Key
  cache : Cache
  deriving Repr

namespace Visit

/-- What the lookup comes to. -/
def answer (v : Visit) : Except Document.Fault Json :=
  (v.cache.lookup v.directory v.key).1

/-- The cache that the lookup leaves. -/
def after (v : Visit) : Cache :=
  (v.cache.lookup v.directory v.key).2

/-- Whether the lookup gives a catalog. -/
def succeeds (v : Visit) : Bool := v.answer.isOk

/-- Whether the catalog is loaded, since none is kept. -/
def loads (v : Visit) : Bool := (List.lookup v.key v.cache).isNone

/-- The visit looks up a key and gives a catalog. -/
def Finds (key : Cache.Key) (v : Visit) : Prop := v.key = key ∧ v.succeeds

/-- The visit looks up a key and gives a catalog that it loads. -/
def Obtains (key : Cache.Key) (v : Visit) : Prop := v.Finds key ∧ v.loads

theorem succeeds_iff {v : Visit} : v.succeeds ↔ ∃ catalog, v.answer = .ok catalog := by
  unfold succeeds
  cases v.answer <;> simp [Except.isOk, Except.toBool]

theorem loads_iff_lookup {v : Visit} : v.loads ↔ List.lookup v.key v.cache = none := by
  unfold loads
  exact Option.isNone_iff_eq_none

/-- A kept catalog is the answer, and becomes the latest. -/
theorem of_kept {v : Visit} {catalog : Json} (h : List.lookup v.key v.cache = some catalog) :
    v.answer = .ok catalog ∧ v.after = (v.key, catalog) :: v.cache.without v.key := by
  unfold answer after Cache.lookup
  simp [h]

/-- A visit that loads answers what the directory holds at that time. -/
theorem answer_of_loads {v : Visit} (h : v.loads) :
    v.answer = v.directory.load v.key.language := by
  unfold answer Cache.lookup
  rw [loads_iff_lookup.1 h]
  cases v.directory.load v.key.language <;> rfl

/-- A loaded catalog becomes the latest, if need be in the place of the
oldest. -/
theorem after_of_obtained {v : Visit} {catalog : Json} (h : v.loads)
    (answered : v.answer = .ok catalog) :
    v.after = ((v.key, catalog) :: v.cache).take Cache.capacity := by
  rw [answer_of_loads h] at answered
  unfold after Cache.lookup
  simp [loads_iff_lookup.1 h, answered]

/-- A visit without success has tried to load, and leaves the cache as it
was. -/
theorem of_failed {v : Visit} (h : ¬ v.succeeds) : v.loads ∧ v.after = v.cache := by
  have notKept : List.lookup v.key v.cache = none := by
    by_contra kept
    obtain ⟨catalog, kept⟩ := Option.ne_none_iff_exists'.1 kept
    exact h (succeeds_iff.2 ⟨catalog, (of_kept kept).1⟩)
  have loads : v.loads := loads_iff_lookup.2 notKept
  refine ⟨loads, ?_⟩
  rw [succeeds_iff, answer_of_loads loads] at h
  unfold after Cache.lookup
  cases loaded : v.directory.load v.key.language with
  | ok catalog => exact absurd ⟨catalog, loaded⟩ h
  | error fault => simp [notKept]

end Visit

/-! ## Visits one after another -/

/-- Visits one after another lead from one cache to another. -/
def Follow (c : Cache) : List Visit → Cache → Prop
  | [], c' => c = c'
  | v :: rest, c' => v.cache = c ∧ Follow v.after rest c'

theorem follow_append {c c' : Cache} {before rest : List Visit} :
    Follow c (before ++ rest) c' ↔ ∃ mid, Follow c before mid ∧ Follow mid rest c' := by
  induction before generalizing c with
  | nil => simp [Follow]
  | cons v before ih => simp [Follow, ih, and_assoc]

theorem follow_snoc {c c' : Cache} {before : List Visit} {v : Visit} :
    Follow c (before ++ [v]) c' ↔ Follow c before v.cache ∧ v.after = c' := by
  rw [follow_append]
  simp only [Follow]
  constructor
  · rintro ⟨mid, h, rfl, rfl⟩
    exact ⟨h, rfl⟩
  · rintro ⟨h, rfl⟩
    exact ⟨_, h, rfl, rfl⟩

/-- The visit that comes after others finds the cache they leave. -/
theorem Follow.before {c c' : Cache} {before rest : List Visit} {v : Visit}
    (h : Follow c (before ++ v :: rest) c') : Follow c before v.cache := by
  obtain ⟨mid, led, rfl, -⟩ := follow_append.1 h
  exact led

/-- A visit is the last with a property: the newer ones do not have it. -/
structure IsLast (p : Visit → Prop) (u : Visit) (newer visits : List Visit) : Prop where
  holds : p u
  split : ∃ older, visits = older ++ u :: newer
  none_newer : ∀ w ∈ newer, ¬ p w

namespace IsLast

variable {p : Visit → Prop} {u v : Visit} {newer visits : List Visit}

theorem here (h : p v) : IsLast p v [] (visits ++ [v]) :=
  ⟨h, ⟨visits, rfl⟩, by simp⟩

theorem snoc (h : IsLast p u newer visits) (hv : ¬ p v) :
    IsLast p u (newer ++ [v]) (visits ++ [v]) := by
  obtain ⟨older, rfl⟩ := h.split
  refine ⟨h.holds, ⟨older, by simp⟩, fun w hw => ?_⟩
  rcases List.mem_append.1 hw with hw | hw
  · exact h.none_newer w hw
  · rwa [List.mem_singleton.1 hw]

/-- Of the visits with a property one is the last. -/
theorem exists_of_mem (hu : u ∈ visits) (h : p u) : ∃ u newer, IsLast p u newer visits := by
  induction visits using List.reverseRecOn with
  | nil => simp at hu
  | append_singleton before v ih =>
    by_cases hv : p v
    · exact ⟨v, [], here hv⟩
    · have hu : u ∈ before := by
        rcases List.mem_append.1 hu with hu | hu
        · exact hu
        · exact absurd (List.mem_singleton.1 hu ▸ h) hv
      obtain ⟨u', newer, last⟩ := ih hu
      exact ⟨u', newer ++ [v], last.snoc hv⟩

end IsLast

/-! ## The keys by recency -/

/-- The keys after a visit: a key that is found comes first. -/
def touch (keys : List Cache.Key) (v : Visit) : List Cache.Key :=
  if v.succeeds then v.key :: keys.erase v.key else keys

/-- **The keys that were looked up successfully**, the latest first. -/
def recent (visits : List Visit) : List Cache.Key :=
  visits.foldl touch []

theorem recent_snoc (visits : List Visit) (v : Visit) :
    recent (visits ++ [v]) = touch (recent visits) v := by
  simp [recent, List.foldl_append]

theorem mem_touch {keys : List Cache.Key} {v : Visit} {key : Cache.Key} :
    key ∈ touch keys v ↔ v.Finds key ∨ key ∈ keys := by
  unfold touch Visit.Finds
  by_cases h : v.succeeds
  · by_cases hk : v.key = key
    · simp [h, hk]
    · simp [h, hk, List.mem_erase_of_ne (Ne.symm hk), Ne.symm hk]
  · simp [h]

theorem mem_recent {visits : List Visit} {key : Cache.Key} :
    key ∈ recent visits ↔ ∃ v ∈ visits, v.Finds key := by
  induction visits using List.reverseRecOn with
  | nil => simp [recent]
  | append_singleton before v ih =>
    rw [recent_snoc, mem_touch, ih]
    simp only [List.mem_append, List.mem_singleton, or_and_right, exists_or, exists_eq_left]
    exact or_comm

theorem nodup_recent (visits : List Visit) : (recent visits).Nodup := by
  induction visits using List.reverseRecOn with
  | nil => simp [recent]
  | append_singleton before v ih =>
    rw [recent_snoc]
    unfold touch
    split
    · exact List.nodup_cons.2 ⟨ih.not_mem_erase, ih.erase _⟩
    · exact ih

/-- The keys that some visits find. -/
def foundKeys (visits : List Visit) : Finset Cache.Key :=
  ((visits.filter Visit.succeeds).map Visit.key).toFinset

theorem foundKeys_snoc (visits : List Visit) (v : Visit) :
    foundKeys (visits ++ [v]) =
      if v.succeeds then insert v.key (foundKeys visits) else foundKeys visits := by
  unfold foundKeys
  by_cases h : v.succeeds
  · ext k
    simp [List.filter_append, h]
  · simp [List.filter_append, h]

/-- A key that lies behind some others lies behind one more when another
key is found, unless that was in front already. -/
theorem touch_split {above : List Cache.Key} (below : List Cache.Key) {key : Cache.Key}
    {v : Visit} (notMem : key ∉ above) (nodup : above.Nodup) (hv : ¬ v.Finds key) :
    ∃ above' below', touch (above ++ key :: below) v = above' ++ key :: below' ∧
      key ∉ above' ∧ above'.Nodup ∧
      above'.toFinset = if v.succeeds then insert v.key above.toFinset else above.toFinset := by
  unfold touch
  by_cases found : v.succeeds
  · have other : v.key ≠ key := fun h => hv ⟨h, found⟩
    have behind : (key :: below).erase v.key = key :: below.erase v.key :=
      List.erase_cons_tail (by simpa using other.symm)
    have sameKeys : (v.key :: above.erase v.key).toFinset = insert v.key above.toFinset := by
      ext k
      by_cases hk : k = v.key
      · simp [hk]
      · simp [hk, List.mem_erase_of_ne hk]
    have distinct : (v.key :: above.erase v.key).Nodup :=
      List.nodup_cons.2 ⟨nodup.not_mem_erase, nodup.erase _⟩
    have notFront : key ∉ v.key :: above.erase v.key := by
      simp [other.symm, List.mem_erase_of_ne other.symm, notMem]
    by_cases hk : v.key ∈ above
    · exact ⟨v.key :: above.erase v.key, below, by simp [found, List.erase_append_left _ hk],
        notFront, distinct, by simp [found, sameKeys]⟩
    · refine ⟨v.key :: above.erase v.key, below.erase v.key, ?_, notFront, distinct,
        by simp [found, sameKeys]⟩
      simp [found, List.erase_append_right _ hk, behind, List.erase_of_not_mem hk]
  · exact ⟨above, below, by simp [found], notMem, nodup, by simp [found]⟩

/-- **How deep a key lies.** After the last visit that finds it the key
stands behind just the keys that were found since. -/
theorem recent_split {visits newer : List Visit} {u : Visit} {key : Cache.Key}
    (last : IsLast (Visit.Finds key) u newer visits) :
    ∃ above below, recent visits = above ++ key :: below ∧ key ∉ above ∧
      above.length = (foundKeys newer).card := by
  obtain ⟨older, rfl⟩ := last.split
  suffices h : ∃ above below, recent (older ++ u :: newer) = above ++ key :: below ∧
      key ∉ above ∧ above.Nodup ∧ above.toFinset = foundKeys newer by
    obtain ⟨above, below, split, notMem, nodup, same⟩ := h
    exact ⟨above, below, split, notMem, by rw [← same, List.toFinset_card_of_nodup nodup]⟩
  have none_newer := last.none_newer
  have found := last.holds
  clear last
  -- From the visit that finds the key on, by induction on the visits since.
  induction newer using List.reverseRecOn with
  | nil =>
    refine ⟨[], (recent older).erase u.key, ?_, by simp, by simp, by simp [foundKeys]⟩
    rw [recent_snoc, touch, if_pos found.2, found.1, List.nil_append]
  | append_singleton newer v ih =>
    obtain ⟨above, below, split, notMem, nodup, same⟩ :=
      ih fun w hw => none_newer w (List.mem_append_left _ hw)
    have hv : ¬ v.Finds key := none_newer v (by simp)
    obtain ⟨above', below', split', notMem', nodup', same'⟩ :=
      touch_split below notMem nodup hv
    refine ⟨above', below', ?_, notMem', nodup', ?_⟩
    · rw [← List.cons_append, ← List.append_assoc, recent_snoc, split, split']
    · rw [same', same, foundKeys_snoc]

/-! ## What the cache holds -/

/-- Keys that are cut off do not come back when a key is taken out. -/
theorem take_erase (keys : List Cache.Key) (key : Cache.Key) (n : Nat) :
    ((keys.take (n + 1)).erase key).take n = (keys.erase key).take n := by
  induction keys generalizing n with
  | nil => simp
  | cons k keys ih =>
    by_cases h : k = key
    · simp [h]
    · have tail : ∀ ks : List Cache.Key, (k :: ks).erase key = k :: ks.erase key :=
        fun ks => List.erase_cons_tail (by simpa using h)
      cases n with
      | zero => simp
      | succ n => rw [List.take_succ_cons, tail, tail, List.take_succ_cons, List.take_succ_cons, ih]

/-- A catalog of a key is kept if the key is among those of the cache. -/
theorem lookup_eq_none_iff_keys {c : Cache} {key : Cache.Key} :
    List.lookup key c = none ↔ key ∉ c.map Prod.fst := by
  rw [List.lookup_eq_none_iff]
  constructor
  · intro none mem
    obtain ⟨e, he, same⟩ := List.mem_map.1 mem
    have := none e he
    simp [same] at this
  · intro notMem e he
    have other : e.1 ≠ key := fun same => notMem (List.mem_map.2 ⟨e, he, same⟩)
    simpa using other.symm

theorem keys_without (key : Cache.Key) (c : Cache) (nodup : (c.map Prod.fst).Nodup) :
    (c.without key).map Prod.fst = (c.map Prod.fst).erase key := by
  rw [nodup.erase_eq_filter]
  unfold Cache.without
  rw [List.filter_map]
  rfl

/-- The keys that a visit leaves: the one it finds comes first, and the
oldest goes where there is no room. -/
theorem keys_after {v : Visit} (nodup : (v.cache.map Prod.fst).Nodup)
    (room : v.cache.length ≤ Cache.capacity) :
    v.after.map Prod.fst = (touch (v.cache.map Prod.fst) v).take Cache.capacity := by
  have all : (v.cache.map Prod.fst).take Cache.capacity = v.cache.map Prod.fst :=
    List.take_of_length_le (by simpa using room)
  unfold touch
  by_cases found : v.succeeds
  · rw [if_pos found]
    obtain ⟨catalog, answered⟩ := Visit.succeeds_iff.1 found
    by_cases loads : v.loads
    · -- A key that is not kept has nothing to be taken out.
      have fresh : v.key ∉ v.cache.map Prod.fst :=
        lookup_eq_none_iff_keys.1 (Visit.loads_iff_lookup.1 loads)
      rw [Visit.after_of_obtained loads answered, List.map_take, List.map_cons,
        List.erase_of_not_mem fresh]
    · -- A key that is kept makes its own room.
      obtain ⟨kept, lookup⟩ := Option.ne_none_iff_exists'.1 (mt Visit.loads_iff_lookup.2 loads)
      have mem : v.key ∈ v.cache.map Prod.fst := by
        by_contra fresh
        simp [lookup_eq_none_iff_keys.2 fresh] at lookup
      rw [(Visit.of_kept lookup).2, List.map_cons, keys_without _ _ nodup, List.take_of_length_le]
      have := List.length_erase_of_mem mem
      have := List.length_pos_of_mem mem
      simp only [List.length_cons, List.length_map] at *
      omega
  · rw [if_neg found, (Visit.of_failed found).2, all]

/-- **The keys of the cache** are those found last, the latest first. -/
theorem Follow.keys_eq {visits : List Visit} {c : Cache} (h : Follow [] visits c) :
    c.map Prod.fst = (recent visits).take Cache.capacity := by
  induction visits using List.reverseRecOn generalizing c with
  | nil =>
    obtain rfl : ([] : Cache) = c := h
    simp [recent]
  | append_singleton before v ih =>
    obtain ⟨led, rfl⟩ := follow_snoc.1 h
    have keys := ih led
    have nodup : (v.cache.map Prod.fst).Nodup :=
      keys ▸ (nodup_recent before).sublist (List.take_sublist ..)
    have room : v.cache.length ≤ Cache.capacity := by
      rw [← List.length_map Prod.fst, keys]
      exact List.length_take_le ..
    rw [keys_after nodup room, keys, recent_snoc]
    unfold touch
    split
    · rw [Cache.capacity, List.take_succ_cons, List.take_succ_cons, take_erase]
    · rw [List.take_take, Nat.min_self]

/-- The cache has room for sixteen catalogs. -/
theorem Follow.length_le {visits : List Visit} {c : Cache} (h : Follow [] visits c) :
    c.length ≤ Cache.capacity := by
  rw [← List.length_map Prod.fst, h.keys_eq]
  exact List.length_take_le ..

/-- The cache has one catalog of a key. -/
theorem Follow.nodup {visits : List Visit} {c : Cache} (h : Follow [] visits c) :
    (c.map Prod.fst).Nodup := by
  rw [h.keys_eq]
  exact (nodup_recent visits).sublist (List.take_sublist ..)

/-- A key behind some others is among the first of a list if these are few. -/
theorem mem_take_iff {above below : List Cache.Key} {key : Cache.Key} (notMem : key ∉ above)
    (n : Nat) : key ∈ (above ++ key :: below).take n ↔ above.length < n := by
  rw [List.take_append, List.mem_append]
  constructor
  · rintro (mem | mem)
    · exact absurd (List.mem_of_mem_take mem) notMem
    · by_contra few
      rw [Nat.sub_eq_zero_of_le (by omega)] at mem
      simp at mem
  · intro few
    obtain ⟨room, hroom⟩ : ∃ room, n - above.length = room + 1 := ⟨n - above.length - 1, by omega⟩
    exact .inr (by simp [hroom])

/-- **When a visit loads**: the key was never found before, or at least
sixteen other keys were found since it was. -/
theorem Follow.loads_iff {before : List Visit} {v : Visit} (h : Follow [] before v.cache) :
    v.loads ↔ (∀ u ∈ before, ¬ u.Finds v.key) ∨
      ∃ u newer, IsLast (Visit.Finds v.key) u newer before ∧
        Cache.capacity ≤ (foundKeys newer).card := by
  have kept_iff : ¬ v.loads ↔ v.key ∈ (recent before).take Cache.capacity := by
    rw [← h.keys_eq, Visit.loads_iff_lookup, lookup_eq_none_iff_keys, not_not]
  constructor
  · intro loads
    by_cases found : ∃ u ∈ before, u.Finds v.key
    · obtain ⟨w, hw, finds⟩ := found
      obtain ⟨u, newer, last⟩ := IsLast.exists_of_mem hw finds
      refine .inr ⟨u, newer, last, ?_⟩
      obtain ⟨above, below, split, notMem, depth⟩ := recent_split last
      rw [← not_lt, ← depth, ← mem_take_iff notMem, ← split, ← kept_iff, not_not]
      exact loads
    · exact .inl fun u hu finds => found ⟨u, hu, finds⟩
  · intro old
    by_contra kept
    have mem := kept_iff.1 kept
    rcases old with never | ⟨u, newer, last, many⟩
    · obtain ⟨u, hu, finds⟩ := mem_recent.1 (List.mem_of_mem_take mem)
      exact never u hu finds
    · obtain ⟨above, below, split, notMem, depth⟩ := recent_split last
      rw [split, mem_take_iff notMem] at mem
      omega

theorem lookup_cons_of_ne {c : Cache} {key : Cache.Key} {e : Cache.Key × Json}
    (h : key ≠ e.1) : List.lookup key (e :: c) = List.lookup key c := by
  have passed : (key == e.1) = false := by simpa using h
  rw [List.lookup_cons, passed]

theorem lookup_of_take {c : Cache} {key : Cache.Key} {catalog : Json} {n : Nat}
    (lookup : List.lookup key (c.take n) = some catalog) : List.lookup key c = some catalog := by
  rw [← List.take_append_drop n c, List.lookup_append, lookup]
  rfl

theorem lookup_without {c : Cache} {key other : Cache.Key} (h : key ≠ other) :
    List.lookup key (c.without other) = List.lookup key c := by
  unfold Cache.without
  induction c with
  | nil => rfl
  | cons e c ih =>
    by_cases same : e.1 = other
    · rw [List.filter_cons_of_neg (by simp [same]), ih, lookup_cons_of_ne (by rwa [same])]
    · rw [List.filter_cons_of_pos (by simpa using same), List.lookup_cons, List.lookup_cons, ih]

/-- A catalog in the cache that a visit leaves was there before, or the
visit has loaded it. -/
theorem lookup_after {v : Visit} {key : Cache.Key} {catalog : Json}
    (lookup : List.lookup key v.after = some catalog) :
    (List.lookup key v.cache = some catalog ∧ ¬ v.Obtains key) ∨
      (v.Obtains key ∧ v.directory.load key.language = .ok catalog) := by
  by_cases found : v.succeeds
  · obtain ⟨answer, answered⟩ := Visit.succeeds_iff.1 found
    by_cases loads : v.loads
    · rw [Visit.after_of_obtained loads answered] at lookup
      have lookup := lookup_of_take lookup
      by_cases same : key = v.key
      · subst same
        obtain rfl : answer = catalog := by simpa using lookup
        exact .inr ⟨⟨⟨rfl, found⟩, loads⟩, Visit.answer_of_loads loads ▸ answered⟩
      · rw [lookup_cons_of_ne same] at lookup
        exact .inl ⟨lookup, fun h => same h.1.1.symm⟩
    · obtain ⟨kept, hkept⟩ := Option.ne_none_iff_exists'.1 (mt Visit.loads_iff_lookup.2 loads)
      rw [(Visit.of_kept hkept).2] at lookup
      refine .inl ⟨?_, fun h => loads h.2⟩
      by_cases same : key = v.key
      · subst same
        simpa [hkept] using lookup
      · rwa [lookup_cons_of_ne same, lookup_without same] at lookup
  · rw [(Visit.of_failed found).2] at lookup
    exact .inl ⟨lookup, fun h => found h.1.2⟩

/-- **What the cache holds of a key** is the catalog of its last successful
load. -/
theorem Follow.kept {visits : List Visit} {c : Cache} (h : Follow [] visits c)
    {key : Cache.Key} {catalog : Json} (lookup : List.lookup key c = some catalog) :
    ∃ u newer, IsLast (Visit.Obtains key) u newer visits ∧
      u.directory.load key.language = .ok catalog := by
  induction visits using List.reverseRecOn generalizing c with
  | nil =>
    obtain rfl : ([] : Cache) = c := h
    simp at lookup
  | append_singleton before v ih =>
    obtain ⟨led, rfl⟩ := follow_snoc.1 h
    rcases lookup_after lookup with ⟨lookup, others⟩ | ⟨obtained, loaded⟩
    · obtain ⟨u, newer, last, loaded⟩ := ih led lookup
      exact ⟨u, newer ++ [v], last.snoc others, loaded⟩
    · exact ⟨v, [], .here obtained, loaded⟩

/-- **What a visit answers** is what the directory held when the key was last
loaded with success, which may be just now. -/
theorem Follow.answer_eq {before : List Visit} {v : Visit} (h : Follow [] before v.cache)
    {catalog : Json} (answered : v.answer = .ok catalog) :
    ∃ u newer, IsLast (Visit.Obtains v.key) u newer (before ++ [v]) ∧
      u.directory.load v.key.language = .ok catalog := by
  have found : v.succeeds := Visit.succeeds_iff.2 ⟨catalog, answered⟩
  by_cases loads : v.loads
  · exact ⟨v, [], .here ⟨⟨rfl, found⟩, loads⟩, Visit.answer_of_loads loads ▸ answered⟩
  · obtain ⟨kept, lookup⟩ := Option.ne_none_iff_exists'.1 (mt Visit.loads_iff_lookup.2 loads)
    obtain rfl : kept = catalog := by simpa [(Visit.of_kept lookup).1] using answered
    obtain ⟨u, newer, last, loaded⟩ := h.kept lookup
    exact ⟨u, newer ++ [v], last.snoc fun obtained => loads obtained.2, loaded⟩

end QueryConsole.Catalog
