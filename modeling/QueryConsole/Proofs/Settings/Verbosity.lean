import QueryConsole.Proofs.EnvFile.Withheld
import QueryConsole.Proofs.Settings.Resolution
/-!
# Sources that differ in one variable

Without the variable of a field, in the environment and in the file, sources
have the same raw values for all other fields (`raw_without`) and refuse the
same names (`extra_without`). So sources that differ in the variable for the
log level, and configure one each, make settings that differ in the log level,
or are refused alike (`settings_of_verbosity`).
-/

namespace QueryConsole.Settings

variable {g : Field}

/-- A name is not that of a field's variable, in any case. -/
def Field.isOther (g : Field) (name : Text) : Bool :=
  name.lower != g.variableName

theorem Field.variableName_injective {f g : Field} (same : f.variableName = g.variableName) :
    f = g := by
  revert same
  cases f <;> cases g <;> decide

namespace Sources

/-- The sources without the variable of a field, in the environment and in the
file. -/
def without (s : Sources) (g : Field) : Sources :=
  { s with
    environment := s.environment.filter fun v => g.isOther v.1
    file := s.file.filter fun v => g.isOther v.1 }

variable {s : Sources} {f : Field}

theorem fromEnvironment?_without (apart : f ≠ g) :
    (s.without g).fromEnvironment? f.variableName = s.fromEnvironment? f.variableName := by
  have tested (v : Text × Text) :
      (g.isOther v.1 = true ∧ (v.1.lower == f.variableName) = true) ↔
        (v.1.lower == f.variableName) = true := by
    refine and_iff_right_of_imp fun own => ?_
    rw [Field.isOther, eq_of_beq own, bne_iff_ne]
    exact mt Field.variableName_injective apart
  rw [fromEnvironment?, fromEnvironment?, without, ← List.filter_reverse, List.find?_filter]
  simp only [tested, Bool.decide_eq_true]

/-- Without a variable the file is what it was, without the variable. -/
theorem lowerFile_without :
    (s.without g).lowerFile = s.lowerFile.filter fun v => v.1 != g.variableName := by
  suffices fold : ∀ (l done : List (Text × Option Text)),
      (l.filter fun v => g.isOther v.1).foldl (fun done v => EnvFile.assign v.1.lower v.2 done)
          (done.filter fun v => v.1 != g.variableName) =
        (l.foldl (fun done v => EnvFile.assign v.1.lower v.2 done) done).filter fun v =>
          v.1 != g.variableName by
    exact fold s.file []
  intro l
  induction l with
  | nil => exact fun _ => rfl
  | cons v l ih =>
    intro done
    rw [List.foldl_cons, ← ih, EnvFile.filter_assign fun name => name != g.variableName,
      List.filter_cons, Field.isOther]
    cases v.1.lower != g.variableName <;> rfl

theorem raw_without (apart : f ≠ g) : (s.without g).raw f = s.raw f := by
  have kept : (f.variableName != g.variableName) = true := by
    rw [bne_iff_ne]
    exact mt Field.variableName_injective apart
  have assigned : (s.without g).assigned? f.variableName = s.assigned? f.variableName := by
    rw [assigned?, assigned?, lowerFile_without,
      EnvFile.lookup_filter (fun name => name != g.variableName) kept]
  rw [raw, raw, fromEnvironment?_without apart, assigned]
  rfl

/-- The variable of a field is never refused. -/
theorem extra_without : (s.without g).extra = s.extra := by
  have assigned : (s.without g).lowerFile.filterMap (fun v =>
        if isField v.1 || isVariable v.1 || (v.2.getD []).isEmpty then .none else some v.1) =
      s.lowerFile.filterMap fun v =>
        if isField v.1 || isVariable v.1 || (v.2.getD []).isEmpty then .none else some v.1 := by
    rw [lowerFile_without, List.filterMap_filter]
    refine List.filterMap_congr fun v _ => ?_
    split
    · rfl
    · next own =>
      have same : g.variableName = v.1 := by
        rw [bne_iff_ne, not_not] at own
        exact own.symm
      rw [isVariable_iff.2 ⟨g, same⟩, Bool.or_true, Bool.true_or, if_pos rfl]
  rw [extra, extra, assigned]
  rfl

/-- The sources configure a log level: by its word, in any case and with blanks
around it, or by not setting one. -/
def Configures (s : Sources) (v : Verbosity) : Prop :=
  (∃ t, s.raw .verbosity = some (.string t) ∧ t.strip.upper = Text.ofString v.word) ∨
    s.raw .verbosity = .none ∧ v = .info

variable {s' : Sources} {v v' : Verbosity}

theorem Configures.checked (configured : s.Configures v) : checked s.raw .verbosity = .ok v := by
  rw [Settings.checked]
  rcases configured with ⟨t, raw, word⟩ | ⟨raw, rfl⟩
  · have checked : Field.verbosity.check (.string t) =
        checkWord .literal Verbosity.all Verbosity.word (.string (Text.ofString v.word)) := by
      rw [← word]
      rfl
    rw [raw, Option.getD_some, checked]
    cases v <;> rfl
  · rw [raw]
    rfl

/-- **Sources that differ in the log level make settings that do**, or are
refused with the same report. -/
theorem settings_of_verbosity (same : s.without .verbosity = s'.without .verbosity)
    (configured : s.Configures v) (configured' : s'.Configures v') :
    s'.settings = s.settings.map fun made => { made with verbosity := v' } := by
  have extra : s'.extra = s.extra := by
    rw [← extra_without (g := .verbosity), ← same, extra_without]
  have apart {f : Field} (apart : f ≠ .verbosity) :
      Settings.checked s'.raw f = Settings.checked s.raw f := by
    rw [Settings.checked, Settings.checked, ← raw_without apart, ← same, raw_without apart]
  -- the log level passes on both sides, so neither report has it
  have wrong : violations s'.raw s'.extra = violations s.raw s.extra := by
    have each (f : Field) : f.violations (Settings.checked s'.raw f) =
        f.violations (Settings.checked s.raw f) := by
      by_cases own : f = .verbosity
      · rw [own, configured.checked, configured'.checked]
        rfl
      · rw [apart own]
    simp only [violations, each, extra]
  rw [settings, settings]
  cases made : ofRaw s.raw s.extra with
  | ok made₁ =>
    obtain ⟨none, passed⟩ := ofRaw_eq_ok_iff.1 made
    refine ofRaw_eq_ok_iff.2 ⟨extra.trans none, fun f => ?_⟩
    by_cases own : f = .verbosity
    · rw [own, configured'.checked]
      rfl
    · rw [apart own, passed f]
      cases f <;> first | rfl | exact absurd rfl own
  | error wrong₁ =>
    obtain ⟨rfl, some⟩ := ofRaw_eq_error_iff.1 made
    exact ofRaw_eq_error_iff.2 ⟨wrong.symm, wrong.symm ▸ wrong ▸ some⟩

theorem Configures.verbosity (configured : s.Configures v) {made : Settings}
    (same : s.settings = .ok made) : made.verbosity = v :=
  Except.ok.inj (((ofRaw_eq_ok_iff.1 same).2 .verbosity).symm.trans configured.checked)

end Sources

end QueryConsole.Settings
