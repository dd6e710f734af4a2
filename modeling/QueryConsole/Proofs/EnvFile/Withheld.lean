import Mathlib.Data.List.Basic
import QueryConsole.EnvFile.Interpolation
/-!
# Names that nothing refers to

The values of a file of assignments without some of its names: if no value
that is kept refers to a name that is left out, leaving them out before the
references are resolved or after comes to the same (`values_filter`).
-/

namespace QueryConsole.EnvFile

/-- A value refers to a name. -/
def RefersTo (value name : Text) : Prop :=
  ∃ fallback, Part.reference name fallback ∈ Part.parse value.length value

variable {keep : Text → Bool}

/-- A name that is kept has the same value among those that are kept. -/
theorem lookup_filter {α : Type} (keep : Text → Bool) {name : Text} (kept : keep name = true)
    (l : List (Text × α)) :
    (l.filter fun v => keep v.1).lookup name = l.lookup name := by
  induction l with
  | nil => rfl
  | cons v l ih =>
    obtain ⟨other, a⟩ := v
    rw [List.filter_cons, List.lookup_cons]
    cases same : name == other with
    | true =>
      obtain rfl : name = other := eq_of_beq same
      rw [if_pos kept, List.lookup_cons, same]
    | false =>
      split
      · rw [List.lookup_cons, same, ih]
      · exact ih

/-- A value that refers to kept names only is resolved with what is kept. -/
theorem interpolate_filter {value : Text} (kept : ∀ name, RefersTo value name → keep name = true)
    (known : List (Text × Option Text)) :
    interpolate (known.filter fun v => keep v.1) value = interpolate known value := by
  refine List.flatMap_congr fun part mem => ?_
  cases part with
  | literal p => rfl
  | reference name fallback =>
    rw [Part.resolve, Part.resolve, lookup_filter keep (kept name ⟨_, mem⟩)]

theorem filter_assign (keep : Text → Bool) (name : Text) (value : Option Text)
    (done : List (Text × Option Text)) :
    (assign name value done).filter (fun v => keep v.1) =
      if keep name then assign name value (done.filter fun v => keep v.1)
      else done.filter fun v => keep v.1 := by
  induction done with
  | nil => cases kept : keep name <;> simp [assign, kept]
  | cons v done ih =>
    obtain ⟨other, old⟩ := v
    rw [assign]
    by_cases same : other = name
    · rw [if_pos same, same]
      cases kept : keep name <;> simp [assign, kept]
    · rw [if_neg same, List.filter_cons, ih]
      cases keep name <;> cases beside : keep other <;> simp [assign, same, beside]

/-- The values after one more assignment. -/
def withAssignment (environment : List (Text × Text)) (done : List (Text × Option Text))
    (a : Assignment) : List (Text × Option Text) :=
  let known := done ++ environment.reverse.map fun v => (v.1, some v.2)
  assign a.name (a.value.map (interpolate known)) done

/-- One more assignment changes what is kept as it does alone, if its name is
kept, and not at all otherwise. -/
theorem filter_withAssignment (environment : List (Text × Text)) (done : List (Text × Option Text))
    {a : Assignment} (kept : keep a.name = true → ∀ value, a.value = some value →
      ∀ name, RefersTo value name → keep name = true) :
    (withAssignment environment done a).filter (fun v => keep v.1) =
      if keep a.name then
        withAssignment (environment.filter fun v => keep v.1) (done.filter fun v => keep v.1) a
      else done.filter fun v => keep v.1 := by
  rw [withAssignment, filter_assign]
  cases own : keep a.name with
  | false => rfl
  | true =>
    have known : (done ++ environment.reverse.map fun v => (v.1, some v.2)).filter
        (fun v => keep v.1) = (done.filter fun v => keep v.1) ++
          (environment.filter fun v => keep v.1).reverse.map fun v => (v.1, some v.2) := by
      rw [List.filter_append, List.filter_map, List.filter_reverse]
      rfl
    rw [if_pos rfl, if_pos rfl, withAssignment, ← known]
    cases value : a.value with
    | none => rfl
    | some t => rw [Option.map_some, Option.map_some, interpolate_filter (kept own t value)]

/-- **Names that nothing refers to may be left out** before the values are
resolved. -/
theorem values_filter (environment : List (Text × Text)) {assignments : List Assignment}
    (kept : ∀ a ∈ assignments, keep a.name = true → ∀ value, a.value = some value →
      ∀ name, RefersTo value name → keep name = true) :
    (values environment assignments).filter (fun v => keep v.1) =
      values (environment.filter fun v => keep v.1) (assignments.filter fun a => keep a.name) := by
  -- by induction on the assignments, for any values made so far
  suffices fold : ∀ done : List (Text × Option Text),
      (assignments.foldl (withAssignment environment) done).filter (fun v => keep v.1) =
        (assignments.filter fun a => keep a.name).foldl
          (withAssignment (environment.filter fun v => keep v.1))
          (done.filter fun v => keep v.1) by
    exact fold []
  induction assignments with
  | nil => exact fun _ => rfl
  | cons a assignments ih =>
    intro done
    rw [List.forall_mem_cons] at kept
    rw [List.foldl_cons, ih kept.2, filter_withAssignment environment done kept.1, List.filter_cons]
    cases keep a.name <;> rfl

end QueryConsole.EnvFile
