import QueryConsole.Proofs.Catalog.Bundled
import QueryConsole.Query.Presentation
import QueryConsole.Submission.Run
/-!
# States as flat records

A `Fields` is a state whose status, result and error stand side by side,
each in a field of its own, so that they may contradict each other: an
error under another status, or a kind without a message. A transition
clears what the last one left and sets what it brings. Whatever transitions
are made, the fields agree (`Consistent.edited`), and they are those of the
`State` to which the same edits lead (`fields_edited`). Of a state whose
result can be written a view is made (`ofParts_parts`), and what is shown of
it in English is `Outcome.caption` (`shown_view_english`).
-/

namespace QueryConsole.Query

open Submission (Edit)

/-- A state as a flat record; the result is null where there is none. -/
structure Fields where
  queryText : Text
  status : Status
  result : Json
  errorMessage : Option Text
  errorKind : Option ErrorKind
  deriving Repr

namespace Fields

/-- The fields of a state before any submission. -/
def new (queryText : Text) : Fields :=
  ⟨queryText, .idle, .null, none, none⟩

/-- No result and no error. -/
def cleared (f : Fields) : Fields :=
  { f with result := .null, errorMessage := none, errorKind := none }

/-- What an edit makes of the fields: those of the outcome are cleared before
any of them is set. -/
def apply (f : Fields) : Edit → Fields
  | .setText text => { f with queryText := text }
  | .begin => { f.cleared with status := .loading }
  | .reset => { f.cleared with status := .idle }
  | .succeed result => { f.cleared with result := result, status := .success }
  | .fail kind message =>
    { f.cleared with errorKind := some kind, errorMessage := some message, status := .error }

/-- What edits make of the fields, one after another. -/
def edited (f : Fields) (edits : List Edit) : Fields :=
  edits.foldl apply f

/-- **Fields that agree**: an error has a message and a kind and nothing else
has, and only a success has a result. -/
structure Consistent (f : Fields) : Prop where
  message : f.errorMessage.isSome = true ↔ f.status = .error
  kind : f.errorKind.isSome = true ↔ f.status = .error
  result : f.status ≠ .success → f.result = .null

variable {f : Fields}

theorem consistent_new (queryText : Text) : (new queryText).Consistent where
  message := by simp [new]
  kind := by simp [new]
  result _ := rfl

/-- The text of the query has no part in it. -/
theorem Consistent.setText (h : f.Consistent) (text : Text) :
    (f.apply (.setText text)).Consistent where
  message := h.message
  kind := h.kind
  result := h.result

/-- **Every edit leaves fields that agree**; those of the outcome leave them
whatever was there before. -/
theorem Consistent.apply (h : f.Consistent) (e : Edit) : (f.apply e).Consistent := by
  cases e with
  | setText text => exact h.setText text
  -- all fields of the outcome are cleared or set, so nothing of the hypothesis is needed
  | begin | reset | succeed _ | fail _ _ =>
    constructor <;> simp [Fields.apply, cleared]

/-- **So do edits one after another.** -/
theorem Consistent.edited (h : f.Consistent) (edits : List Edit) :
    (f.edited edits).Consistent := by
  induction edits generalizing f with
  | nil => exact h
  | cons e rest ih => exact ih (h.apply e)

end Fields

namespace State

/-- The fields of a state. -/
def fields (s : State) : Fields :=
  ⟨s.queryText, s.status, s.outcome.result?.getD .null, s.outcome.errorMessage?,
    s.outcome.errorKind?⟩

/-- What edits make of a state, one after another. -/
def edited (s : State) (edits : List Edit) : State :=
  edits.foldl (fun s e => e.apply s) s

variable {s : State}

@[simp] theorem edited_nil : s.edited [] = s := rfl

theorem edited_append (before after : List Edit) :
    s.edited (before ++ after) = (s.edited before).edited after :=
  List.foldl_append

/-- **An edit of a state is the edit of its fields.** -/
theorem fields_apply (e : Edit) (s : State) : (e.apply s).fields = s.fields.apply e := by
  cases e <;> rfl

theorem fields_edited (s : State) (edits : List Edit) :
    (s.edited edits).fields = s.fields.edited edits := by
  induction edits generalizing s with
  | nil => rfl
  | cons e rest ih => exact (ih (e.apply s)).trans (by rw [fields_apply]; rfl)

end State

/-! ## Views -/

/-- The parts of a view with a given text of the result. -/
def Fields.partsWith (f : Fields) (resultText : Json) : List (Text × Json) :=
  [ ("query_text", .string f.queryText),
    ("status", .string (Text.ofString f.status.word)),
    ("is_loading", .bool (f.status == .loading)),
    ("result_text", resultText),
    ("error_message", (f.errorMessage.map Json.string).getD .null) ]

/-- **The parts that a view is made of**, or the message that the result
cannot be written. A result is rendered for a success alone. -/
def Fields.parts (f : Fields) : Except Text (List (Text × Json)) :=
  if f.status = .success then f.result.render.map fun t => f.partsWith (.string t)
  else .ok (f.partsWith .null)

/-- **A view that copies fields**: it loads while they do, and it has a text
of the result exactly for a success. -/
structure View.Copies (v : View) (f : Fields) : Prop where
  queryText : v.queryText = f.queryText
  status : v.status = f.status
  errorMessage : v.errorMessage = f.errorMessage
  isLoading : v.isLoading = true ↔ f.status = .loading
  resultText : v.resultText.isSome = true ↔ f.status = .success

/-- **What stands for fields in English**: a word while there is nothing to
show, the message of an error, or the rendered result. -/
structure Fields.ShownAs (f : Fields) (shown : Text) : Prop where
  idle : f.status = .idle → shown = "Ready"
  loading : f.status = .loading → shown = "Loading..."
  success : f.status = .success → f.result.render = .ok shown
  error : ∀ message, f.errorMessage = some message → shown = Text.ofString "Error: " ++ message

/-- What is shown in English of an outcome. -/
def Outcome.caption : Outcome → Text
  | idle => "Ready"
  | loading => "Loading..."
  | success result => result.pretty
  | error _ message => Text.ofString "Error: " ++ message

variable {s : State}

/-- Parts of the right kinds make a view. -/
theorem ofParts_eq (queryText : Text) (status : Status) (isLoading : Bool)
    (resultText errorMessage : Option Text) :
    View.ofParts
      [ ("query_text", .string queryText),
        ("status", .string (Text.ofString status.word)),
        ("is_loading", .bool isLoading),
        ("result_text", (resultText.map Json.string).getD .null),
        ("error_message", (errorMessage.map Json.string).getD .null) ] =
      .ok ⟨queryText, status, isLoading, resultText, errorMessage⟩ := by
  cases status <;> cases resultText <;> cases errorMessage <;> rfl

/-- **A view is made of a state** whose result, if it has one, can be
written. -/
theorem ofParts_parts (writable : ∀ result, s.outcome.result? = some result →
    result.isWritable = true) :
    ∃ parts, s.fields.parts = .ok parts ∧ View.ofParts parts = .ok s.view := by
  obtain ⟨queryText, outcome⟩ := s
  cases outcome with
  | idle => exact ⟨_, rfl, ofParts_eq queryText .idle false none none⟩
  | loading => exact ⟨_, rfl, ofParts_eq queryText .loading true none none⟩
  | success result =>
    have rendered : result.render = .ok result.pretty := if_pos (writable result rfl)
    have parts : Fields.parts (State.fields ⟨queryText, .success result⟩) =
        result.render.map fun t => Fields.partsWith (State.fields ⟨queryText, .success result⟩)
          (.string t) := if_pos rfl
    refine ⟨_, ?_, ofParts_eq queryText .success false (some result.pretty) none⟩
    rw [parts, rendered]
    rfl
  | error kind message => exact ⟨_, rfl, ofParts_eq queryText .error false none (some message)⟩

/-- And the view copies its fields. -/
theorem view_copies (s : State) : s.view.Copies s.fields where
  queryText := rfl
  status := rfl
  errorMessage := rfl
  isLoading := beq_iff_eq
  resultText := by
    obtain ⟨queryText, outcome⟩ := s
    cases outcome <;> simp [State.view, State.fields, State.status, Outcome.status,
      Outcome.result?]

theorem shownAs_caption (writable : ∀ result, s.outcome.result? = some result →
    result.isWritable = true) : s.fields.ShownAs s.outcome.caption := by
  obtain ⟨queryText, outcome⟩ := s
  cases outcome with
  | success result =>
    have rendered : result.render = .ok result.pretty := if_pos (writable result rfl)
    constructor <;> simp [State.fields, State.status, Outcome.status, Outcome.errorMessage?,
      Outcome.result?, Outcome.caption, rendered]
  | idle | loading | error _ _ =>
    constructor <;> simp [State.fields, State.status, Outcome.status, Outcome.errorMessage?,
      Outcome.caption]

/-- What is shown of a state in the words of a catalog. -/
theorem shown_view (messages : Catalog.Messages) (s : State) :
    s.view.shown messages =
      match s.outcome with
      | .idle => messages.get "status.idle" none []
      | .loading => messages.get "status.loading" none []
      | .success result => .ok (.string result.pretty)
      | .error _ message => messages.get "ui.error" none [("message", .text message)] := by
  obtain ⟨queryText, outcome⟩ := s
  cases outcome <;> rfl

/-- **What is shown of a state in English.** -/
theorem shown_view_english {messages : Catalog.Messages} (h : messages.directory = Catalog.bundled)
    (asked : Text.ofString "en" ∈ messages.languages none) (s : State) :
    s.view.shown messages = .ok (.string s.outcome.caption) := by
  rw [shown_view]
  cases s.outcome with
  | idle => exact Catalog.get_english h (e := ("status.idle", "Ready")) (by decide) asked
  | loading => exact Catalog.get_english h (e := ("status.loading", "Loading...")) (by decide) asked
  | success result => rfl
  | error kind message =>
    have described : messages.describe "ui.error" none [("message", .text message)] =
        .ok (Text.ofString "Error: " ++ message ++ []) :=
      Catalog.describe_english h (f := ⟨"ui.error", "Error: ", "message", ""⟩) (v := .text message)
        (by simp [Catalog.framed]) rfl rfl asked
    rw [List.append_nil] at described
    show messages.get "ui.error" none [("message", .text message)] = _
    rw [Catalog.get_eq_describe rfl, described]
    rfl

end QueryConsole.Query
