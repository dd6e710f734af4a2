import QueryConsole.Proofs.Settings.Fields
import QueryConsole.Settings.Sources
/-!
# Which source counts

What an argument, the environment and a file have for a field is looked up in
four ways, in any case or not, and in one order. `Sources.Gives` is the raw
value of a field as it is meant, the first that there is, and `Sources.Forbids`
the names that are refused; where the names of each source are distinct, the
look-ups find these (`gives_iff`, `mem_extra_iff`). So settings are what the
rules make of the raw values, field by field (`resolved_field_by_field`), and
sources that give the same are alike, whatever else they hold
(`alike_of_gives`).
-/

namespace QueryConsole.Settings

/-! ## Lists with one entry for each key -/

section Keyed

variable {α κ : Type} [BEq κ] [LawfulBEq κ] {k : κ} {a : α}

theorem find?_eq_some_of_nodup {key : α → κ} {l : List α} (distinct : (l.map key).Nodup) :
    (l.find? fun b => key b == k) = some a ↔ a ∈ l ∧ key a = k := by
  refine ⟨fun found => ⟨List.mem_of_find?_eq_some found, ?_⟩, fun ⟨mem, same⟩ => ?_⟩
  · exact eq_of_beq (List.find?_some found :)
  · cases found : l.find? fun b => key b == k with
    | none => exact absurd (beq_iff_eq.2 same) (List.find?_eq_none.1 found a mem)
    | some b =>
      have other : key b = k := eq_of_beq (List.find?_some found :)
      rw [List.inj_on_of_nodup_map distinct (List.mem_of_find?_eq_some found) mem
        (other.trans same.symm)]

theorem lookup_eq_some_of_nodup {l : List (κ × α)} (distinct : (l.map (·.1)).Nodup) :
    l.lookup k = some a ↔ (k, a) ∈ l := by
  induction l with
  | nil => simp
  | cons e l ih =>
    obtain ⟨name, b⟩ := e
    obtain ⟨fresh, distinct⟩ := List.nodup_cons.1 distinct
    rw [List.lookup_cons, List.mem_cons, Prod.mk.injEq]
    cases same : k == name with
    | true =>
      obtain rfl : k = name := eq_of_beq same
      have elsewhere : (k, a) ∉ l := fun mem => fresh (List.mem_map.2 ⟨_, mem, rfl⟩)
      simp [elsewhere, eq_comm]
    | false =>
      have other : k ≠ name := by simpa using same
      simp only [ih distinct, other, false_and, false_or]

end Keyed

namespace Sources

/-! ## What the sources have for a field -/

/-- The names of each source are distinct, those of variables in any case. -/
structure Distinct (s : Sources) : Prop where
  arguments : (s.arguments.map (·.1)).Nodup
  environment : (s.environment.map fun v => v.1.lower).Nodup
  file : (s.file.map fun v => v.1.lower).Nodup

/-- An argument sets a field. -/
def Argued (s : Sources) (f : Field) (v : Json) : Prop :=
  (Text.ofString f.name, v) ∈ s.arguments

/-- A variable of the environment sets a field, its name in any case. -/
def Exported (s : Sources) (f : Field) (t : Text) : Prop :=
  ∃ name, (name, t) ∈ s.environment ∧ name.lower = f.variableName

/-- The file sets a field, the name in any case. -/
def Assigned (s : Sources) (f : Field) (t : Text) : Prop :=
  ∃ name, (name, some t) ∈ s.file ∧ name.lower = f.variableName

/-- **The raw value of a field**: that of the first source that has one, in
the order argument, environment, file, and else the default. -/
inductive Gives (s : Sources) (f : Field) : Json → Prop
  | argument {v : Json} (argued : s.Argued f v) : Gives s f v
  | environment {t : Text} (unargued : ∀ v, ¬s.Argued f v) (exported : s.Exported f t) :
      Gives s f (.string t)
  | file {t : Text} (unargued : ∀ v, ¬s.Argued f v) (unexported : ∀ t, ¬s.Exported f t)
      (assigned : s.Assigned f t) : Gives s f (.string t)
  | unset (unargued : ∀ v, ¬s.Argued f v) (unexported : ∀ t, ¬s.Exported f t)
      (unassigned : ∀ t, ¬s.Assigned f t) : Gives s f f.unset

/-- **A name is refused**: it is that of an argument but of no field, or
something that is not empty is assigned to it in the file, and it is the
name of no field and of no variable of one. Names of the file count in lower
case. -/
inductive Forbids (s : Sources) : Text → Prop
  | argument {name : Text} {v : Json} (argued : (name, v) ∈ s.arguments)
      (unknown : ∀ f : Field, Text.ofString f.name ≠ name) : Forbids s name
  | file {name t : Text} (assigned : (name, some t) ∈ s.file) (nonempty : t ≠ [])
      (unknown : ∀ f : Field, Text.ofString f.name ≠ name.lower ∧ f.variableName ≠ name.lower) :
      Forbids s name.lower

variable {s : Sources}

theorem argued_iff (h : s.Distinct) {f : Field} {v : Json} :
    s.Argued f v ↔ s.arguments.lookup (Text.ofString f.name) = some v :=
  (lookup_eq_some_of_nodup h.arguments).symm

theorem exported_iff (h : s.Distinct) {f : Field} {t : Text} :
    s.Exported f t ↔ s.fromEnvironment? f.variableName = some t := by
  have distinct : (s.environment.reverse.map fun v => v.1.lower).Nodup := by
    rw [List.map_reverse, List.nodup_reverse]
    exact h.environment
  rw [fromEnvironment?, Option.map_eq_some_iff]
  constructor
  · rintro ⟨name, mem, same⟩
    exact ⟨(name, t), (find?_eq_some_of_nodup distinct).2 ⟨List.mem_reverse.2 mem, same⟩, rfl⟩
  · rintro ⟨⟨name, t'⟩, found, rfl⟩
    obtain ⟨mem, same⟩ := (find?_eq_some_of_nodup distinct).1 found
    exact ⟨name, List.mem_reverse.1 mem, same⟩

/-- What is assigned to a new name comes last. -/
theorem assign_of_not_mem {name : Text} {value : Option Text} {done : List (Text × Option Text)}
    (fresh : name ∉ done.map (·.1)) : EnvFile.assign name value done = done ++ [(name, value)] := by
  induction done with
  | nil => rfl
  | cons v done ih =>
    simp only [List.map_cons, List.mem_cons, not_or] at fresh
    rw [EnvFile.assign, if_neg (Ne.symm fresh.1), ih fresh.2, List.cons_append]

/-- Where no two names differ in case only, the values of the file stand
under their names in lower case, one for one. -/
theorem lowerFile_eq (h : s.Distinct) : s.lowerFile = s.file.map fun v => (v.1.lower, v.2) := by
  suffices fold : ∀ (l done : List (Text × Option Text)),
      (done.map (·.1) ++ l.map fun v => v.1.lower).Nodup →
        l.foldl (fun done v => EnvFile.assign v.1.lower v.2 done) done =
          done ++ l.map fun v => (v.1.lower, v.2) by
    exact fold s.file [] h.file
  intro l
  -- the names that are done and those to come stay distinct, so each comes last
  induction l with
  | nil => simp
  | cons v l ih =>
    intro done distinct
    have fresh : v.1.lower ∉ done.map (·.1) := by
      rw [List.nodup_append'] at distinct
      exact fun mem => distinct.2.2 mem List.mem_cons_self
    rw [List.foldl_cons, assign_of_not_mem fresh, ih _ (by simpa using distinct)]
    simp

theorem nodup_lowerFile (h : s.Distinct) : (s.lowerFile.map (·.1)).Nodup := by
  rw [lowerFile_eq h, List.map_map]
  exact h.file

theorem assigned_iff (h : s.Distinct) {f : Field} {t : Text} :
    s.Assigned f t ↔ s.assigned? f.variableName = some t := by
  rw [assigned?, Option.join_eq_some_iff, lookup_eq_some_of_nodup (nodup_lowerFile h),
    lowerFile_eq h, List.mem_map]
  constructor
  · rintro ⟨name, mem, same⟩
    exact ⟨_, mem, by rw [same]⟩
  · rintro ⟨⟨name, value⟩, mem, same⟩
    obtain ⟨same, rfl⟩ := Prod.mk.inj same
    exact ⟨name, mem, same⟩

theorem unargued_iff (h : s.Distinct) {f : Field} :
    (∀ v, ¬s.Argued f v) ↔ s.arguments.lookup (Text.ofString f.name) = .none := by
  simp only [argued_iff h, Option.eq_none_iff_forall_ne_some, ne_eq]

theorem unexported_iff (h : s.Distinct) {f : Field} :
    (∀ t, ¬s.Exported f t) ↔ s.fromEnvironment? f.variableName = .none := by
  simp only [exported_iff h, Option.eq_none_iff_forall_ne_some, ne_eq]

theorem unassigned_iff (h : s.Distinct) {f : Field} :
    (∀ t, ¬s.Assigned f t) ↔ s.assigned? f.variableName = .none := by
  simp only [assigned_iff h, Option.eq_none_iff_forall_ne_some, ne_eq]

/-- **What the sources give for a field** is its raw value, or the default
where there is none. -/
theorem gives_iff (h : s.Distinct) {f : Field} {v : Json} :
    s.Gives f v ↔ v = (s.raw f).getD f.unset := by
  constructor
  · intro given
    rw [raw]
    cases given with
    | argument argued => rw [(argued_iff h).1 argued]; rfl
    | environment unargued exported =>
      rw [(unargued_iff h).1 unargued, (exported_iff h).1 exported]; rfl
    | file unargued unexported assigned =>
      rw [(unargued_iff h).1 unargued, (unexported_iff h).1 unexported, (assigned_iff h).1 assigned]
      rfl
    | unset unargued unexported unassigned =>
      rw [(unargued_iff h).1 unargued, (unexported_iff h).1 unexported,
        (unassigned_iff h).1 unassigned]
      rfl
  · -- the other way, the sources are gone through as `raw` does
    rintro rfl
    rw [raw]
    cases argued : s.arguments.lookup (Text.ofString f.name) with
    | some v => exact .argument ((argued_iff h).2 argued)
    | none =>
      have unargued := (unargued_iff h).2 argued
      cases exported : s.fromEnvironment? f.variableName with
      | some t => exact .environment unargued ((exported_iff h).2 exported)
      | none =>
        have unexported := (unexported_iff h).2 exported
        cases assigned : s.assigned? f.variableName with
        | some t => exact .file unargued unexported ((assigned_iff h).2 assigned)
        | none => exact .unset unargued unexported ((unassigned_iff h).2 assigned)

/-! ## Names that are refused -/

theorem isField_iff {name : Text} :
    isField name = true ↔ ∃ f : Field, Text.ofString f.name = name := by
  simp [isField, Field.mem_all]

theorem isVariable_iff {name : Text} :
    isVariable name = true ↔ ∃ f : Field, f.variableName = name := by
  simp [isVariable, Field.mem_all]

/-- **The names that are reported** are those that are refused. -/
theorem mem_extra_iff (h : s.Distinct) {name : Text} : name ∈ s.extra ↔ s.Forbids name := by
  have arguments : name ∈ (s.arguments.map (·.1)).filter (fun name => !isField name) ↔
      (∃ v, (name, v) ∈ s.arguments) ∧ ∀ f : Field, Text.ofString f.name ≠ name := by
    simp [← Bool.not_eq_true, isField_iff]
  have file : name ∈ s.lowerFile.filterMap (fun v =>
        if isField v.1 || isVariable v.1 || (v.2.getD []).isEmpty then .none else some v.1) ↔
      ∃ written t, (written, some t) ∈ s.file ∧ t ≠ [] ∧ written.lower = name ∧
        ∀ f : Field, Text.ofString f.name ≠ name ∧ f.variableName ≠ name := by
    have known : (isField name || isVariable name) = false ↔
        ∀ f : Field, Text.ofString f.name ≠ name ∧ f.variableName ≠ name := by
      rw [← Bool.not_eq_true, Bool.or_eq_true, isField_iff, isVariable_iff, not_or, not_exists,
        not_exists, forall_and]
    rw [List.mem_filterMap, lowerFile_eq h]
    constructor
    · rintro ⟨⟨lower, value⟩, mem, counts⟩
      obtain ⟨⟨written, value⟩, own, ⟨⟩⟩ := List.mem_map.1 mem
      split at counts
      · simp at counts
      · next tested =>
        obtain rfl := Option.some.inj counts
        rw [Bool.not_eq_true, Bool.or_eq_false_iff] at tested
        obtain ⟨unknown, nonempty⟩ := tested
        cases value with
        | none => simp at nonempty
        | some t => exact ⟨written, t, own, by simpa using nonempty, rfl, known.1 unknown⟩
    · rintro ⟨written, t, mem, nonempty, rfl, unknown⟩
      refine ⟨(written.lower, some t), List.mem_map.2 ⟨(written, some t), mem, rfl⟩, if_neg ?_⟩
      rw [Bool.not_eq_true, Bool.or_eq_false_iff]
      exact ⟨known.2 unknown, by simpa using nonempty⟩
  rw [extra, List.mem_eraseDups, List.mem_append, arguments, file]
  constructor
  · rintro (⟨⟨v, mem⟩, unknown⟩ | ⟨written, t, mem, nonempty, rfl, unknown⟩)
    · exact .argument mem unknown
    · exact .file mem nonempty unknown
  · rintro (⟨mem, unknown⟩ | ⟨mem, nonempty, unknown⟩)
    · exact .inl ⟨⟨_, mem⟩, unknown⟩
    · exact .inr ⟨_, _, mem, nonempty, rfl, unknown⟩

theorem nodup_eraseDups {α : Type} [BEq α] [LawfulBEq α] : (l : List α) → l.eraseDups.Nodup
  | [] => List.nodup_nil
  | a :: l => by
    rw [List.eraseDups_cons, List.nodup_cons]
    exact ⟨by simp, nodup_eraseDups _⟩
termination_by l => l.length
decreasing_by exact Nat.lt_succ_of_le (List.length_filter_le _ _)

theorem nodup_extra : s.extra.Nodup :=
  nodup_eraseDups _

theorem name_not_mem_extra (h : s.Distinct) (f : Field) : Text.ofString f.name ∉ s.extra := by
  rw [mem_extra_iff h]
  generalize same : Text.ofString f.name = name
  rintro (⟨-, unknown⟩ | ⟨-, -, unknown⟩)
  · exact unknown f same
  · exact (unknown f).1 same

/-! ## Settings of sources -/

theorem checked_of_gives (h : s.Distinct) {f : Field} {v : Json} (given : s.Gives f v) :
    checked s.raw f = f.check v := by
  rw [checked, (gives_iff h).1 given]

/-- Every field has one raw value. -/
theorem existsUnique_gives (h : s.Distinct) (f : Field) : ∃! v, s.Gives f v :=
  ⟨_, (gives_iff h).2 rfl, fun _ given => (gives_iff h).1 given⟩

/-- Settings that are the same, or the same reports, in whatever order. -/
def Alike : Except (List Violation) Settings → Except (List Violation) Settings → Prop
  | .ok made, .ok made' => made = made'
  | .error wrong, .error wrong' => wrong.Perm wrong'
  | _, _ => False

/-- **Sources that give the same and refuse the same** are alike. -/
theorem alike_of_gives {s' : Sources} (h : s.Distinct) (h' : s'.Distinct)
    (gives : ∀ f v, s.Gives f v ↔ s'.Gives f v)
    (forbids : ∀ name, s.Forbids name ↔ s'.Forbids name) : Alike s.settings s'.settings := by
  have checked_eq (f : Field) : checked s.raw f = checked s'.raw f := by
    have given := (gives f _).1 ((gives_iff h).2 rfl)
    rw [checked_of_gives h' given, checked]
  have extra : s.extra.Perm s'.extra :=
    (List.perm_ext_iff_of_nodup nodup_extra nodup_extra).2 fun name => by
      rw [mem_extra_iff h, mem_extra_iff h', forbids]
  -- the fields are reported in their order, the refused names in that of the sources
  have wrong : (violations s.raw s.extra).Perm (violations s'.raw s'.extra) := by
    simp only [violations, checked_eq]
    exact (extra.map _).append_left _
  rw [settings, settings]
  cases made : ofRaw s.raw s.extra with
  | ok made₁ =>
    obtain ⟨none, passed⟩ := ofRaw_eq_ok_iff.1 made
    have same : ofRaw s'.raw s'.extra = .ok made₁ :=
      ofRaw_eq_ok_iff.2 ⟨(none ▸ extra).nil_eq.symm, fun f => checked_eq f ▸ passed f⟩
    rw [same]
    rfl
  | error wrong₁ =>
    obtain ⟨rfl, some⟩ := ofRaw_eq_error_iff.1 made
    have same : ofRaw s'.raw s'.extra = .error (violations s'.raw s'.extra) :=
      ofRaw_eq_error_iff.2 ⟨rfl, fun none => some (none ▸ wrong).eq_nil⟩
    rw [same]
    exact wrong

/-- Sources with the same arguments that differ in what is shadowed and in
variables of the environment that are no field's: a field has the same
variable if no argument sets it, and the same assignment if no variable does
either. -/
structure SameButShadowed (s s' : Sources) : Prop where
  arguments : s.arguments = s'.arguments
  exported {f : Field} (unargued : ∀ v, ¬s.Argued f v) {t : Text} : s.Exported f t ↔ s'.Exported f t
  assigned {f : Field} (unargued : ∀ v, ¬s.Argued f v) (unexported : ∀ t, ¬s.Exported f t)
    {t : Text} : s.Assigned f t ↔ s'.Assigned f t
  forbids {name : Text} : s.Forbids name ↔ s'.Forbids name

theorem SameButShadowed.argued {s' : Sources} (same : s.SameButShadowed s') {f : Field} {v : Json} :
    s.Argued f v ↔ s'.Argued f v := by
  rw [Argued, Argued, same.arguments]

theorem SameButShadowed.symm {s' : Sources} (same : s.SameButShadowed s') :
    s'.SameButShadowed s where
  arguments := same.arguments.symm
  exported unargued := (same.exported fun v => mt same.argued.1 (unargued v)).symm
  assigned unargued unexported _ := by
    have unargued' := fun v => mt same.argued.1 (unargued v)
    exact (same.assigned unargued' fun t => mt (same.exported unargued').1 (unexported t)).symm
  forbids := same.forbids.symm

/-- What is shadowed does not count. -/
theorem SameButShadowed.gives {s' : Sources} (same : s.SameButShadowed s') {f : Field} {v : Json}
    (given : s.Gives f v) : s'.Gives f v := by
  have unargued' (unargued : ∀ v, ¬s.Argued f v) (v : Json) : ¬s'.Argued f v :=
    mt same.argued.2 (unargued v)
  cases given with
  | argument argued => exact .argument (same.argued.1 argued)
  | environment unargued exported =>
    exact .environment (unargued' unargued) ((same.exported unargued).1 exported)
  | file unargued unexported assigned =>
    exact .file (unargued' unargued) (fun t => mt (same.exported unargued).2 (unexported t))
      ((same.assigned unargued unexported).1 assigned)
  | unset unargued unexported unassigned =>
    exact .unset (unargued' unargued) (fun t => mt (same.exported unargued).2 (unexported t))
      fun t => mt (same.assigned unargued unexported).2 (unassigned t)

/-- Everything that is wrong is reported: the fields that get a value that
breaks their rule, and the names that are refused. -/
theorem mem_wrong_iff (h : s.Distinct) {place : Text} {rule : Rule} :
    ⟨place, rule⟩ ∈ violations s.raw s.extra ↔
      (∃ f v, s.Gives f v ∧ f.check v = .error rule ∧ place = Text.ofString f.name) ∨
        s.Forbids place ∧ rule = .extra := by
  rw [mem_violations, mem_extra_iff h]
  refine or_congr_left (exists_congr fun f => ?_)
  constructor
  · rintro ⟨rfl, broken⟩
    exact ⟨_, (gives_iff h).2 rfl, broken, rfl⟩
  · rintro ⟨v, given, broken, rfl⟩
    exact ⟨rfl, checked_of_gives h given ▸ broken⟩

/-- **Settings are resolved field by field.** Where the names of each source
are distinct, every field gets one raw value, that of the first source that
has one. Settings cannot be made exactly if one of these values breaks the
rule of its field or a name is refused. If they are made, every field has what
its rule makes of its raw value, and if not, all such fields and names are
reported, each once. So sources that give the fields the same raw values and
refuse the same names make the same settings or the same report; what is
shadowed does not count, and neither do unknown variables of the
environment. -/
theorem resolved_field_by_field :
    (∀ s : Sources, s.Distinct →
      (∀ f, ∃! v, s.Gives f v) ∧
      ((∃ wrong, s.settings = .error wrong) ↔
        (∃ f v rule, s.Gives f v ∧ f.check v = .error rule) ∨ ∃ name, s.Forbids name) ∧
      (∀ made, s.settings = .ok made → ∀ f v, s.Gives f v → f.check v = .ok (made.value f)) ∧
      ∀ wrong, s.settings = .error wrong →
        (wrong.map (·.place)).Nodup ∧
        ∀ place rule, ⟨place, rule⟩ ∈ wrong ↔
          (∃ f v, s.Gives f v ∧ f.check v = .error rule ∧ place = Text.ofString f.name) ∨
            s.Forbids place ∧ rule = .extra) ∧
    (∀ s s' : Sources, s.Distinct → s'.Distinct → (∀ f v, s.Gives f v ↔ s'.Gives f v) →
      (∀ name, s.Forbids name ↔ s'.Forbids name) → Alike s.settings s'.settings) ∧
    ∀ s s' : Sources, s.Distinct → s'.Distinct → s.SameButShadowed s' →
      Alike s.settings s'.settings := by
  refine ⟨fun s h => ⟨existsUnique_gives h, ?_, fun made same f v given => ?_,
    fun wrong same => ?_⟩, fun s s' h h' => alike_of_gives h h', fun s s' h h' same => ?_⟩
  · constructor
    · rintro ⟨wrong, same⟩
      obtain ⟨rfl, some⟩ := ofRaw_eq_error_iff.1 same
      obtain ⟨⟨place, rule⟩, reported⟩ := List.exists_mem_of_ne_nil _ some
      rcases (mem_wrong_iff h).1 reported with ⟨f, v, given, broken, -⟩ | ⟨forbidden, -⟩
      · exact .inl ⟨f, v, rule, given, broken⟩
      · exact .inr ⟨place, forbidden⟩
    · intro reason
      refine ⟨_, ofRaw_eq_error_iff.2 ⟨rfl, ?_⟩⟩
      rcases reason with ⟨f, v, rule, given, broken⟩ | ⟨name, forbidden⟩
      · exact List.ne_nil_of_mem ((mem_wrong_iff h).2 (.inl ⟨f, v, given, broken, rfl⟩))
      · exact List.ne_nil_of_mem ((mem_wrong_iff h).2 (.inr ⟨forbidden, rfl⟩))
  · rw [← checked_of_gives h given]
    exact (ofRaw_eq_ok_iff.1 same).2 f
  · obtain ⟨rfl, -⟩ := ofRaw_eq_error_iff.1 same
    exact ⟨nodup_places nodup_extra (name_not_mem_extra h), fun place rule => mem_wrong_iff h⟩
  · exact alike_of_gives h h' (fun f v => ⟨same.gives, same.symm.gives⟩) fun name => same.forbids

/-- Sources in which an argument shadows a variable and an assignment, neither
of which would pass. -/
def shadowing : Sources :=
  ⟨[("log_level", .string "debug")], [("QueryPad_Log_Level", "loud"), ("HOME", "/")],
    [("querypad_log_level", some [])]⟩

theorem resolved_field_by_field_shadowing :
    Alike shadowing.settings (Sources.settings ⟨shadowing.arguments, [], []⟩) ∧
      ∃ wrong, Sources.settings ⟨[], [], [("User", some "x")]⟩ = .error wrong := by
  obtain ⟨single, same, -⟩ := resolved_field_by_field
  have distinct : shadowing.Distinct := ⟨by decide, by decide, by decide⟩
  have distinct' : Sources.Distinct ⟨shadowing.arguments, [], []⟩ :=
    ⟨by decide, List.nodup_nil, List.nodup_nil⟩
  refine ⟨same _ _ distinct distinct' (fun f v => ?_) fun name => ?_, ?_⟩
  · have raw : shadowing.raw f = Sources.raw ⟨shadowing.arguments, [], []⟩ f := by
      cases f <;> rfl
    rw [gives_iff distinct, gives_iff distinct', raw]
  · have extra : shadowing.extra = Sources.extra ⟨shadowing.arguments, [], []⟩ := by decide
    rw [← mem_extra_iff distinct, ← mem_extra_iff distinct', extra]
  · have alone : Sources.Distinct ⟨[], [], [("User", some "x")]⟩ :=
      ⟨List.nodup_nil, List.nodup_nil, List.nodup_singleton _⟩
    refine (single _ alone).2.1.2 (.inr ⟨_, .file (List.mem_singleton_self _) (by decide) ?_⟩)
    rintro ⟨⟩ <;> decide

end Sources

end QueryConsole.Settings
