import QueryConsole.Catalog.Messages
/-!
# When a message cannot be described

A description looks its key up in two catalogs and fills what it finds.
`Undescribed` lists what may go wrong on the way: a catalog that cannot be
read or is no object, an entry that is no text, a template with a fault of
its own. A placeholder without an argument is none of these, since the
template is then shown as it is. `describe_eq_error_iff` says that nothing
else goes wrong, and that all of this does.
-/

namespace QueryConsole.Catalog

namespace Messages

variable {m : Messages} {key : Text} {arguments : Template.Arguments}

/-- **Why a key that is looked up in some languages has no description.** -/
inductive Undescribed (m : Messages) (key : Text) (arguments : Template.Arguments) :
    List Text → Fault → Prop
  /-- The key itself, which no catalog has, is a template with a fault. -/
  | keyAlone {f : Template.Fault} : Template.fill arguments key = .error f → f ≠ .unfilled →
      Undescribed m key arguments [] (.template f)
  /-- A catalog cannot be read. -/
  | unreadable {language : Text} {rest : List Text} {f : Document.Fault} :
      m.directory.load language = .error f →
      Undescribed m key arguments (language :: rest) (.document f)
  /-- A catalog is no object. -/
  | notCatalog {language : Text} {rest : List Text} {catalog : Json} :
      m.directory.load language = .ok catalog → (∀ members, catalog ≠ .object members) →
      Undescribed m key arguments (language :: rest) (.notCatalog catalog.typeName)
  /-- An entry is no text. -/
  | notTemplate {language : Text} {rest : List Text} {members : Json.Members} {entry : Json} :
      m.directory.load language = .ok (.object members) →
      Json.Members.find? key members = some entry → entry ≠ .null →
      (∀ t, entry ≠ .string t) →
      Undescribed m key arguments (language :: rest) (.notTemplate entry.typeName)
  /-- An entry is a template with a fault. -/
  | faulty {language : Text} {rest : List Text} {members : Json.Members} {t : Text}
      {f : Template.Fault} :
      m.directory.load language = .ok (.object members) →
      Json.Members.find? key members = some (.string t) →
      Template.fill arguments t = .error f → f ≠ .unfilled →
      Undescribed m key arguments (language :: rest) (.template f)
  /-- A catalog has no entry, or null, and the next ones are at fault. -/
  | passedOn {language : Text} {rest : List Text} {members : Json.Members} {fault : Fault} :
      m.directory.load language = .ok (.object members) →
      Json.Members.find? key members = none ∨ Json.Members.find? key members = some .null →
      Undescribed m key arguments rest fault →
      Undescribed m key arguments (language :: rest) fault

/-- A text cannot be shown exactly when it is a template with a fault. -/
theorem fillMessage_string_eq_error_iff {t : Text} {fault : Fault} :
    fillMessage arguments (.string t) = .error fault ↔
      ∃ f, Template.fill arguments t = .error f ∧ f ≠ .unfilled ∧ fault = .template f := by
  rw [fillMessage, Template.fillOrKeep]
  cases h : Template.fill arguments t with
  | ok shown => simp
  | error f =>
    cases f with
    | unfilled => simp
    | _ => simp [eq_comm]

/-- What is no text cannot be filled. -/
theorem fillMessage_other {entry : Json} (other : ∀ t, entry ≠ .string t) :
    fillMessage arguments entry = .error (.notTemplate entry.typeName) := by
  cases entry with
  | string t => exact absurd rfl (other t)
  | _ => rfl

/-- Whatever is at fault keeps the message from being described. -/
theorem find_bind_of_undescribed {languages : List Text} {fault : Fault}
    (h : Undescribed m key arguments languages fault) :
    (m.find key languages >>= fillMessage arguments) = .error fault := by
  induction h with
  | keyAlone hfill hne => exact fillMessage_string_eq_error_iff.2 ⟨_, hfill, hne, rfl⟩
  | unreadable hl => rw [find, hl]; rfl
  | @notCatalog language rest catalog hl other =>
    rw [find, hl]
    cases catalog with
    | object members => exact absurd rfl (other members)
    | _ => rfl
  | @notTemplate language rest members entry hl hf notNull other =>
    have found : entry? key (.object members) = .ok (some entry) := by
      cases entry with
      | null => exact absurd rfl notNull
      | _ => simp only [hf, entry?]
    simp only [find, hl, found]
    exact fillMessage_other other
  | @faulty language rest members t f hl hf hfill hne =>
    simp only [find, hl, entry?, hf]
    exact fillMessage_string_eq_error_iff.2 ⟨f, hfill, hne, rfl⟩
  | @passedOn language rest members fault hl hf _ ih =>
    have absent : entry? key (.object members) = .ok none := by
      rcases hf with hf | hf <;> simp only [hf, entry?]
    simp only [find, hl, absent]
    exact ih

/-- **And nothing else does.** -/
theorem undescribed_of_find_bind {languages : List Text} {fault : Fault}
    (h : (m.find key languages >>= fillMessage arguments) = .error fault) :
    Undescribed m key arguments languages fault := by
  induction languages with
  | nil =>
    obtain ⟨f, hfill, hne, rfl⟩ := fillMessage_string_eq_error_iff.1 h
    exact .keyAlone hfill hne
  | cons language rest ih =>
    rw [find] at h
    cases hl : m.directory.load language with
    | error f =>
      rw [hl] at h
      obtain rfl : Fault.document f = fault := Except.error.inj h
      exact .unreadable hl
    | ok catalog =>
      rw [hl] at h
      cases catalog with
      | object members =>
        cases hf : Json.Members.find? key members with
        | none =>
          simp only [hf, entry?] at h
          exact .passedOn hl (.inl hf) (ih h)
        | some entry =>
          cases entry with
          | null =>
            simp only [hf, entry?] at h
            exact .passedOn hl (.inr hf) (ih h)
          | string t =>
            simp only [hf, entry?] at h
            obtain ⟨f, hfill, hne, rfl⟩ := fillMessage_string_eq_error_iff.1 h
            exact .faulty hl hf hfill hne
          | bool _ | int _ | float _ | array _ | object _ =>
            simp only [hf, entry?] at h
            rw [← Except.error.inj h]
            exact .notTemplate hl hf (by simp) (by simp)
      | null | bool _ | int _ | float _ | string _ | array _ =>
        unfold entry? at h
        rw [← Except.error.inj h]
        exact .notCatalog hl (by simp)

/-- **Exactly when a message cannot be described**, and with which fault. -/
theorem describe_eq_error_iff {locale : Option Text} {fault : Fault} :
    m.describe key locale arguments = .error fault ↔
      Undescribed m key arguments (m.languages locale) fault := by
  have eq : m.describe key locale arguments =
      (m.find key (m.languages locale) >>= fillMessage arguments) := by
    rw [describe]
    cases m.find key (m.languages locale) <;> rfl
  rw [eq]
  exact ⟨undescribed_of_find_bind, find_bind_of_undescribed⟩

end Messages

end QueryConsole.Catalog
