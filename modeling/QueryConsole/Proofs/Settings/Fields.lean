import Mathlib
import QueryConsole.Proofs.Number.Rounding
import QueryConsole.Proofs.Web.Host
import QueryConsole.Settings.Field
/-!
# Settings field by field

Every field has a rule, `Field.check`, and a raw value for where nothing sets
it, which passes the rule (`Field.check_unset`). So settings are what the rules
make of six raw values: they are made if every value passes and no name is
refused (`ofRaw_eq_ok_iff`), and otherwise everything that is wrong is reported
(`ofRaw_eq_error_iff`, `mem_violations`), each place once (`nodup_places`).
Nothing later unfolds `ofRaw`.
-/

namespace QueryConsole.Settings

namespace Field

theorem mem_all (f : Field) : f ∈ all := by
  cases f <;> decide

/-- What a field is set to. -/
def Value : Field → Type
  | environment => Environment
  | endpoint => Text
  | timeout => Binary64
  | initialQuery => Text
  | defaultLanguage => Text
  | verbosity => Verbosity

/-- The rule of a field. -/
def check : (f : Field) → Json → Checked f.Value
  | environment => checkEnvironment
  | endpoint => checkEndpoint
  | timeout => checkSeconds
  | initialQuery => checkText
  | defaultLanguage => checkText
  | verbosity => checkVerbosity

/-- The raw value of a field that nothing sets. -/
def unset : Field → Json
  | environment => .string "dev"
  | endpoint => .string defaultEndpoint
  | timeout => .float (Binary64.ofInt 30)
  | initialQuery => .string Query.initialText
  | defaultLanguage => .string "en"
  | verbosity => .string "INFO"

end Field

/-- What the settings have for a field. -/
def value (s : Settings) : (f : Field) → f.Value
  | .environment => s.environment
  | .endpoint => s.endpoint
  | .timeout => s.timeout
  | .initialQuery => s.initialQuery
  | .defaultLanguage => s.defaultLanguage
  | .verbosity => s.verbosity

/-! ## Seconds -/

/-- **A number of seconds is above zero and no more than ten minutes.** -/
theorem checkSeconds_eq_ok_iff {v : Json} {x : Binary64} :
    checkSeconds v = .ok x ↔ checkNumber v = .ok x ∧
      ∃ quanta, x = .finite false quanta ∧ 0 < quanta ∧
        quanta ≤ maxSeconds * Binary64.quantaOfOne := by
  have most : Binary64.ofInt maxSeconds =
      .finite false (maxSeconds * Binary64.quantaOfOne) := Binary64.ofInt_natCast (by decide)
  have bounds (y : Binary64) :
      y.le (Binary64.ofInt maxSeconds) = true ∧ Binary64.zero.lt y = true ↔
        ∃ quanta, y = .finite false quanta ∧ 0 < quanta ∧
          quanta ≤ maxSeconds * Binary64.quantaOfOne := by
    rw [most]
    generalize maxSeconds * Binary64.quantaOfOne = limit
    cases y with
    | finite negative quanta =>
      cases negative <;>
        simp [Binary64.le, Binary64.lt, Binary64.lt.ordinal, Binary64.zero, and_comm]
    | infinite negative =>
      cases negative <;> simp [Binary64.le, Binary64.lt, Binary64.zero]
    | nan => simp [Binary64.le]
  rw [← bounds, checkSeconds]
  cases checkNumber v with
  | error rule => simp [bind, Except.bind]
  | ok y =>
    -- two tests, one after the other; past both, the number is what was read
    by_cases least : y.le (Binary64.ofInt maxSeconds) = true
    · by_cases positive : Binary64.zero.lt y = true
      · simp only [bind, Except.bind, least, positive, pure, Except.pure]
        grind
      · simp only [bind, Except.bind, least, positive, throw, throwThe, MonadExceptOf.throw]
        grind
    · simp only [bind, Except.bind, least, throw, throwThe, MonadExceptOf.throw]
      grind

theorem checkSeconds_natCast (n : Nat) (some : 0 < n) (few : n ≤ maxSeconds) :
    checkSeconds (.float (Binary64.ofInt n)) = .ok (Binary64.ofInt n) := by
  have whole : Binary64.ofInt n = .finite false (n * Binary64.quantaOfOne) :=
    Binary64.ofInt_natCast (Nat.le_trans few (by decide))
  exact checkSeconds_eq_ok_iff.2 ⟨rfl, _, whole,
    Nat.mul_pos some Binary64.quantaOfOne_pos, Nat.mul_le_mul_right _ few⟩

/-! ## Fields that nothing sets -/

open Web in
/-- The default endpoint is an address in its normal form. -/
theorem parse_defaultEndpoint : Address.parse defaultEndpoint =
    .ok ⟨.http, [], .domain "localhost", some 8080, ["compiler", "plainText"], none, none⟩ := by
  have host : Host.parse "localhost" = .ok (.domain "localhost") :=
    Host.parse_of_label (by cbv) (by decide) (by decide) (by decide) rfl (by decide)
  have authority : Address.authority "localhost:8080" =
      .ok ([], .domain "localhost", some 8080) := by
    have user : Address.splitUser "localhost:8080" = (none, Text.ofString "localhost:8080") := by
      cbv
    have parts : Address.splitHost false "localhost:8080" =
        (Text.ofString "localhost", Text.ofString ":8080") := by cbv
    have port : Address.readPort ":8080" = .ok (some 8080) := by cbv
    simp only [Address.authority, user, parts, host, bind, Except.bind, port]
    rfl
  have scheme : Address.splitScheme? (Address.clean defaultEndpoint) =
      some (Text.ofString "http", Text.ofString "//localhost:8080/compiler/plainText") := by cbv
  have place : (((Text.ofString "//localhost:8080/compiler/plainText").dropWhile
      Address.isSlash).takeWhile fun p => !Address.endsAuthority true p) = "localhost:8080" := by
    cbv
  have parsed : Address.parse defaultEndpoint =
      Address.ofRest .http "//localhost:8080/compiler/plainText" := by
    rw [Address.parse, scheme]
    rfl
  rw [parsed]
  simp only [Address.ofRest, place, authority]
  rfl

theorem checkEndpoint_default : checkEndpoint (.string defaultEndpoint) = .ok defaultEndpoint := by
  have scalar : Text.isScalar defaultEndpoint = true := by decide
  simp only [checkEndpoint, scalar, if_true, parse_defaultEndpoint]
  rfl

/-- **What nothing sets passes the rules**, and makes the default settings. -/
theorem Field.check_unset (f : Field) : f.check f.unset = .ok (Settings.default.value f) := by
  cases f with
  | endpoint => exact checkEndpoint_default
  | timeout =>
    simp only [check, unset, value, default]
    exact checkSeconds_natCast 30 (by decide) (by decide)
  | environment | initialQuery | defaultLanguage | verbosity => rfl

/-! ## All fields together -/

/-- What the rule of a field makes of its raw value. -/
def checked (raw : Field → Option Json) (f : Field) : Checked f.Value :=
  f.check ((raw f).getD f.unset)

/-- Everything that is wrong, field after field, and then the names that are
refused. -/
def violations (raw : Field → Option Json) (extra : List Text) : List Violation :=
  (Field.all.flatMap fun f => f.violations (checked raw f)) ++
    extra.map fun name => ⟨name, .extra⟩

theorem setting_eq (raw : Field → Option Json) (f : Field) :
    setting f.check (Settings.default.value f) (raw f) = checked raw f := by
  rw [checked]
  cases raw f with
  | none => exact f.check_unset.symm
  | some v => rfl

variable {raw : Field → Option Json} {extra : List Text}

/-- **What is reported**: the fields whose values break their rules, and the
names that are refused. -/
theorem mem_violations {place : Text} {rule : Rule} :
    ⟨place, rule⟩ ∈ violations raw extra ↔
      (∃ f : Field, place = Text.ofString f.name ∧ checked raw f = .error rule) ∨
        place ∈ extra ∧ rule = .extra := by
  have own (f : Field) : (⟨place, rule⟩ : Violation) ∈ f.violations (checked raw f) ↔
      place = Text.ofString f.name ∧ checked raw f = .error rule := by
    rw [Field.violations]
    cases checked raw f with
    | ok v => simp [Checked.violations]
    | error broken => simp [Checked.violations, eq_comm]
  have refused : (⟨place, rule⟩ : Violation) ∈ extra.map (fun name => ⟨name, .extra⟩) ↔
      place ∈ extra ∧ rule = .extra := by
    rw [List.mem_map]
    grind
  simp only [violations, List.mem_append, List.mem_flatMap, Field.mem_all, true_and, own, refused]

/-- Nothing is reported if the values pass their rules and no name is
refused. -/
theorem violations_eq_nil_iff :
    violations raw extra = [] ↔ extra = [] ∧ ∀ f, ∃ v, checked raw f = .ok v := by
  have passed (f : Field) :
      f.violations (checked raw f) = [] ↔ ∃ v, checked raw f = .ok v := by
    rw [Field.violations]
    cases checked raw f <;> simp [Checked.violations]
  simp only [violations, List.append_eq_nil_iff, List.map_eq_nil_iff, List.flatMap_eq_nil_iff,
    Field.mem_all, forall_const, passed, and_comm]

/-- Each place is reported once. -/
theorem nodup_places (distinct : extra.Nodup)
    (apart : ∀ f : Field, Text.ofString f.name ∉ extra) :
    ((violations raw extra).map (·.place)).Nodup := by
  have fields : ((Field.all.flatMap fun f => f.violations (checked raw f)).map (·.place)).Sublist
      (Field.all.flatMap fun f => [Text.ofString f.name]) := by
    rw [List.map_flatMap]
    refine List.Sublist.flatMap_right _ fun f _ => ?_
    rw [Field.violations]
    cases checked raw f with
    | ok v => exact List.nil_sublist _
    | error rule => exact List.Sublist.refl _
  have names : (Field.all.flatMap fun f => [Text.ofString f.name]).Nodup := by decide
  have refused : (extra.map fun name => (⟨name, .extra⟩ : Violation)).map (·.place) = extra := by
    rw [List.map_map]
    exact List.map_id _
  rw [violations, List.map_append, refused, List.nodup_append']
  refine ⟨names.sublist fields, distinct, fun place field unknown => ?_⟩
  obtain ⟨f, -, same⟩ := List.mem_flatMap.1 (fields.subset field)
  exact apart f (List.mem_singleton.1 same ▸ unknown)

/-! ## Settings made -/

/-- Settings are known by what they have for each field. -/
theorem ext_value {s s' : Settings} (same : ∀ f, s.value f = s'.value f) : s = s' := by
  obtain ⟨environment, endpoint, timeout, initialQuery, defaultLanguage, verbosity⟩ := s
  obtain rfl : environment = _ := same .environment
  obtain rfl : endpoint = _ := same .endpoint
  obtain rfl : timeout = _ := same .timeout
  obtain rfl : initialQuery = _ := same .initialQuery
  obtain rfl : defaultLanguage = _ := same .defaultLanguage
  obtain rfl : verbosity = _ := same .verbosity
  rfl

/-- Settings are made of six values, and refused if any of them is or a name
is. -/
theorem ofRaw_cases (raw : Field → Option Json) (extra : List Text) :
    (∃ s, ofRaw raw extra = .ok s ∧ extra = [] ∧ ∀ f, checked raw f = .ok (s.value f)) ∨
      ofRaw raw extra = .error (violations raw extra) ∧ violations raw extra ≠ [] := by
  generalize made : ofRaw raw extra = result
  -- `ofRaw` names each rule, and the fields name them by `check`: the same by computation, but
  -- not for rewriting
  have environment := setting_eq raw .environment
  have endpoint := setting_eq raw .endpoint
  have timeout := setting_eq raw .timeout
  have initialQuery := setting_eq raw .initialQuery
  have defaultLanguage := setting_eq raw .defaultLanguage
  have verbosity := setting_eq raw .verbosity
  have wrong : violations raw extra =
      Field.environment.violations (checked raw .environment) ++
        Field.endpoint.violations (checked raw .endpoint) ++
        Field.timeout.violations (checked raw .timeout) ++
        Field.initialQuery.violations (checked raw .initialQuery) ++
        Field.defaultLanguage.violations (checked raw .defaultLanguage) ++
        Field.verbosity.violations (checked raw .verbosity) ++
        extra.map fun name => ⟨name, .extra⟩ := by
    simp only [violations, Field.all, List.flatMap_cons, List.flatMap_nil, List.append_nil,
      List.append_assoc]
  rw [← environment, ← endpoint, ← timeout, ← initialQuery, ← defaultLanguage, ← verbosity] at wrong
  rw [ofRaw] at made
  split at made
  · next v₁ v₂ v₃ v₄ v₅ v₆ h₁ h₂ h₃ h₄ h₅ h₆ =>
    have passed (f : Field) : checked raw f = .ok (value ⟨v₁, v₂, v₃, v₄, v₅, v₆⟩ f) := by
      rw [← setting_eq]
      cases f <;> assumption
    split at made
    · next unrefused => exact .inl ⟨_, made.symm, List.isEmpty_iff.1 unrefused, passed⟩
    · next refused =>
      refine .inr ⟨made.symm.trans (congrArg Except.error wrong.symm), fun none => refused ?_⟩
      exact List.isEmpty_iff.2 (violations_eq_nil_iff.1 none).1
  · next broken =>
    -- had nothing been reported, all six would have passed
    refine .inr ⟨made.symm.trans (congrArg Except.error wrong.symm), fun none => ?_⟩
    have passed := (violations_eq_nil_iff.1 none).2
    obtain ⟨v₁, h₁⟩ := passed .environment
    obtain ⟨v₂, h₂⟩ := passed .endpoint
    obtain ⟨v₃, h₃⟩ := passed .timeout
    obtain ⟨v₄, h₄⟩ := passed .initialQuery
    obtain ⟨v₅, h₅⟩ := passed .defaultLanguage
    obtain ⟨v₆, h₆⟩ := passed .verbosity
    exact broken v₁ v₂ v₃ v₄ v₅ v₆ (environment.trans h₁) (endpoint.trans h₂) (timeout.trans h₃)
      (initialQuery.trans h₄) (defaultLanguage.trans h₅) (verbosity.trans h₆)

/-- **Settings are made** if no name is refused and every raw value passes the
rule of its field; they have what the rules make of the values. -/
theorem ofRaw_eq_ok_iff {s : Settings} :
    ofRaw raw extra = .ok s ↔ extra = [] ∧ ∀ f, checked raw f = .ok (s.value f) := by
  rcases ofRaw_cases raw extra with ⟨made, same, unrefused, passed⟩ | ⟨refused, some⟩
  · rw [same]
    constructor
    · rintro ⟨⟩
      exact ⟨unrefused, passed⟩
    · rintro ⟨-, passed'⟩
      exact congrArg _ (ext_value fun f => Except.ok.inj ((passed f).symm.trans (passed' f)))
  · rw [refused]
    refine iff_of_false (by simp) fun ⟨unrefused, passed⟩ => some ?_
    exact violations_eq_nil_iff.2 ⟨unrefused, fun f => ⟨_, passed f⟩⟩

/-- **Settings are refused** with everything that is wrong, if anything is. -/
theorem ofRaw_eq_error_iff {wrong : List Violation} :
    ofRaw raw extra = .error wrong ↔ wrong = violations raw extra ∧ wrong ≠ [] := by
  rcases ofRaw_cases raw extra with ⟨made, same, unrefused, passed⟩ | ⟨refused, some⟩
  · rw [same]
    refine iff_of_false (by simp) fun ⟨all, reported⟩ => reported (all.trans ?_)
    exact violations_eq_nil_iff.2 ⟨unrefused, fun f => ⟨_, passed f⟩⟩
  · rw [refused, Except.error.injEq]
    exact ⟨fun same => ⟨same.symm, same ▸ some⟩, fun same => same.1.symm⟩

end QueryConsole.Settings
