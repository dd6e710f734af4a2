import Mathlib
import QueryConsole.Catalog.Library
import QueryConsole.Proofs.Template.Pieces
/-!
# Messages that arguments fill

What a look-up gives with arguments is what it gives without any, presented
with them (`Library.get_eq_present`). So a message that is stored as a template
in pieces comes out filled altogether, or as it is stored
(`formatted_of_pieces`).
-/

namespace QueryConsole.Catalog

open Template

/-- **The message that is stored for a key**: the entry of the first of some
languages whose catalog has one. -/
inductive Messages.Stored (m : Messages) (key : Text) : List Text → Json → Prop
  /-- The catalog has an entry. -/
  | here {language : Text} {rest : List Text} {members : Json.Members} {message : Json} :
      m.directory.load language = .ok (.object members) →
      Json.Members.find? key members = some message → message ≠ .null →
      Stored m key (language :: rest) message
  /-- The catalog has none, or null, and a later one has. -/
  | later {language : Text} {rest : List Text} {members : Json.Members} {message : Json} :
      m.directory.load language = .ok (.object members) →
      Json.Members.find? key members = none ∨ Json.Members.find? key members = some .null →
      Stored m key rest message → Stored m key (language :: rest) message

/-- **Arguments that fit a look-up**: there are some, none has a name that
the look-up keeps for itself, and their values can be shown. -/
structure Fitting (arguments : Arguments) : Prop where
  nonempty : arguments ≠ []
  named : ∀ a ∈ arguments, a.1 ≠ "self" ∧ a.1 ≠ "key" ∧ a.1 ≠ "locale"
  short : ∀ a ∈ arguments, a.2.IsShort

variable {m : Messages} {key : Text} {languages : List Text} {message : Json}
variable {arguments : Arguments} {pieces : List Piece}

/-- An entry that is not null is found. -/
theorem entry_of_find {members : Json.Members}
    (found : Json.Members.find? key members = some message) (entry : message ≠ .null) :
    entry? key (.object members) = .ok (some message) := by
  unfold entry?
  simp only [found]
  cases message with
  | null => exact absurd rfl entry
  | _ => rfl

/-- The stored message is the one that is found. -/
theorem Messages.find_of_stored (h : m.Stored key languages message) :
    m.find key languages = .ok message := by
  induction h with
  | here loaded found entry =>
    rw [find, loaded]
    simp only [entry_of_find found entry]
  | later loaded found _ ih =>
    rw [find, loaded]
    rcases found with none | null
    · simp only [none, entry?, ih]
    · simp only [null, entry?, ih]

/-- The names of arguments that fit are their own. -/
theorem Fitting.namingFault?_eq (h : Fitting arguments) : namingFault? arguments = none := by
  have locale : (arguments.map (·.1)).contains (Text.ofString "locale") = false := by
    rw [List.contains_eq_any_beq, List.any_eq_false]
    intro name mem
    obtain ⟨a, among, rfl⟩ := List.mem_map.1 mem
    simpa using (h.named a among).2.2.symm
  have others :
      (arguments.map (·.1)).find? [Text.ofString "self", Text.ofString "key"].contains = none := by
    rw [List.find?_eq_none]
    intro name mem
    obtain ⟨a, among, rfl⟩ := List.mem_map.1 mem
    simp [(h.named a among).1, (h.named a among).2.1]
  simp only [namingFault?, locale, others, Bool.false_eq_true, if_false, Option.map_none]

/-- **Arguments are put into the message that there is without them**,
whatever catalogs a service has kept. -/
theorem Library.get_eq_present (l : Library) (service : Nat) (key : Text) (locale : Option Text)
    (own : namingFault? arguments = none) :
    (l.get service key locale arguments).1 =
      (l.get service key locale []).1.map fun message => message >>= present arguments := by
  have none : namingFault? [] = none := rfl
  rw [get, get]
  cases l.services[service]? with
  | none => rfl
  | some s =>
    simp only [own, none, Service.get]
    cases h : s.find l.directory key
      [firstLanguage s.defaultLanguage locale, s.defaultLanguage] l.cache with
    | mk found cache => cases found <;> rfl

/-- A template in pieces is presented filled, or as it is. -/
theorem present_pieces (simple : ∀ p ∈ pieces, p.IsSimple) (fitting : Fitting arguments) :
    present arguments (.string (pieces.flatMap Piece.written)) =
      .ok (.string (becomes arguments pieces)) := by
  rw [present, List.isEmpty_eq_false_iff.2 fitting.nonempty, if_neg Bool.false_ne_true,
    fillMessage, fillOrKeep_written simple fitting.short]
  rfl

/-- **A message is filled in one pass, altogether or not at all.** If it is
stored as a template in pieces, then with arguments that fit it is the texts
of its pieces, where every placeholder has a name and an argument of that
name: text with its braces single, and for a placeholder the text of its
argument as it is, whatever braces are in it. Where one has not, the message is
the template, as it is stored. So it is over catalogs that are read anew, and
with any that services have kept. Arguments that no placeholder names make no
difference. -/
theorem formatted_of_pieces {pieces : List Piece} (simple : ∀ p ∈ pieces, p.IsSimple)
    {arguments : Arguments} (fitting : Fitting arguments) (key : Text) (locale : Option Text) :
    let template := Json.string (pieces.flatMap Piece.written)
    let shown := Json.string (if ∀ p ∈ pieces, p.isGiven arguments = true
      then pieces.flatMap (Piece.shown arguments) else pieces.flatMap Piece.written)
    (∀ m : Messages, m.Stored key (m.languages locale) template →
      m.get key locale arguments = .ok shown) ∧
    (∀ (l : Library) (service : Nat), (l.get service key locale []).1 = some (.ok template) →
      (l.get service key locale arguments).1 = some (.ok shown)) ∧
    ∀ arguments' : Arguments, Fitting arguments' →
      (∀ name, .field name ∈ pieces → arguments'.lookup name = arguments.lookup name) →
      ∀ (l : Library) (service : Nat), (l.get service key locale []).1 = some (.ok template) →
        (l.get service key locale arguments').1 = (l.get service key locale arguments).1 := by
  intro template shown
  have becomes_eq : Json.string (becomes arguments pieces) = shown := by
    simp only [shown, becomes, List.all_eq_true]
  have presented {arguments : Arguments} (fitting : Fitting arguments) {l : Library} {service : Nat}
      (stored : (l.get service key locale []).1 = some (.ok template)) :
      (l.get service key locale arguments).1 = some (.ok (.string (becomes arguments pieces))) := by
    rw [l.get_eq_present service key locale fitting.namingFault?_eq, stored]
    exact congrArg some (present_pieces simple fitting)
  refine ⟨fun m stored => ?_, fun l service stored => ?_,
    fun arguments' fitting' same l service stored => ?_⟩
  · rw [Messages.get, Messages.find_of_stored stored, ← becomes_eq]
    exact present_pieces simple fitting
  · rw [presented fitting stored, becomes_eq]
  · rw [presented fitting stored, presented fitting' stored, becomes_congr same]

/-- A template with braces around its first placeholder. -/
def braced : List Piece :=
  [.literal "\x7b", .field "a", .literal "\x7d is ", .field "b"]

/-- A directory with an English catalog that has the template. -/
def bracedDirectory : Directory :=
  .ofFiles [("en.json",
    Utf8.encode "\x7b\"k\": \"\x7b\x7b\x7ba\x7d\x7d\x7d is \x7bb\x7d\"\x7d")]

/-- In French, for which there is no catalog, the first argument looks like a
placeholder for the second, and stays; without the second the template
stays. -/
theorem formatted_of_pieces_braced :
    Messages.get ⟨bracedDirectory, "en"⟩ "k" (some "fr")
        [("a", .text "\x7bb\x7d"), ("b", .int (-7)), ("c", .none)] =
      .ok (.string "\x7b\x7bb\x7d\x7d is -7") ∧
    (((Library.new bracedDirectory).openService "en").get 0 "k" none
        [("a", .bool true), ("c", .none)]).1 =
      some (.ok (.string "\x7b\x7b\x7ba\x7d\x7d\x7d is \x7bb\x7d")) := by
  have simple : ∀ p ∈ braced, p.IsSimple := by
    have words : Field.IsWord "a" ∧ Field.IsWord "b" := by decide
    simp [braced, Piece.IsSimple, words]
  have both : Fitting [("a", .text "\x7bb\x7d"), ("b", .int (-7)), ("c", .none)] :=
    ⟨by simp, by decide, by simp [Value.IsShort]; decide⟩
  have one : Fitting [("a", .bool true), ("c", .none)] :=
    ⟨by simp, by decide, by simp [Value.IsShort]⟩
  obtain ⟨filled, -, -⟩ := formatted_of_pieces simple both "k" (some "fr")
  obtain ⟨-, kept, -⟩ := formatted_of_pieces simple one "k" none
  have french : bracedDirectory.load "fr" = .ok (.object []) := by cbv
  have english : bracedDirectory.load "en" =
      .ok (.object [("k", .string (braced.flatMap Piece.written))]) := by cbv
  have stored : Messages.Stored ⟨bracedDirectory, "en"⟩ "k" ["fr", "en"]
      (.string (braced.flatMap Piece.written)) :=
    .later french (.inl rfl) (.here english rfl (by simp))
  have made {t t' : Text} (same : t = t') :
      (Except.ok (Json.string t) : Except Fault Json) = .ok (.string t') := by rw [same]
  exact ⟨(filled ⟨bracedDirectory, "en"⟩ stored).trans (made (by decide)),
    (kept ((Library.new bracedDirectory).openService "en") 0 (by cbv)).trans
      (congrArg some (made (by decide)))⟩

end QueryConsole.Catalog
