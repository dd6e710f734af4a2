import QueryConsole.Proofs.Endpoint.Acceptance
import QueryConsole.Proofs.Json.ReadingBack
/-!
# Nothing is lost in what is shown

A reply is decoded to a value and the value is shown. `render_lossless`
says that this is a normal form of what was decoded: the rendering never
fails, a reply that holds it is decoded to the same value, and so no two
values that are decoded are shown alike.
-/

namespace QueryConsole.Exchange

open Json

/-- A value that some exchange decoded its reply to. -/
def Decoded (v : Json) : Prop :=
  ∃ endpoint query status body, (execute endpoint query (.response status body)).outcome = .ok v

variable {endpoint : Endpoint} {query : Text} {status : Int} {body : Bytes} {v : Json}

/-- An exchange that comes to a value came to its reply. -/
theorem receive_of_execute {reply : Reply} (h : (execute endpoint query reply).outcome = .ok v) :
    (receive endpoint reply).outcome = .ok v := by
  rw [execute] at h
  split at h
  · simp at h
  · exact h

/-- What is decoded was read from the text of the body. -/
theorem read_of_outcome (h : (execute endpoint query (.response status body)).outcome = .ok v) :
    ∃ t, Encoding.decodeBody body = .ok t ∧ Json.read t = .ok v := by
  have received := receive_of_execute h
  rw [receive] at received
  simp only at received
  split at received
  · rw [readBody_eq] at received
    cases decoded : Encoding.decodeBody body with
    | error fault => simp [decoded] at received
    | ok t =>
      refine ⟨t, rfl, ?_⟩
      simp only [decoded] at received
      split at received
      · next w read => rw [read, Except.ok.inj received]
      · simp at received
      · simp at received
  · simp at received

/-- What a reply is decoded to does not depend on who asked. -/
theorem decoded_of_receive {reply : Reply} (h : (receive endpoint reply).outcome = .ok v) :
    Decoded v := by
  cases reply with
  | response status body =>
    exact ⟨endpoint, [], status, body, (outcome_execute endpoint _ rfl).trans h⟩
  | broken fault message => simp [receive] at h
  | raised failure => simp [receive] at h

/-- **What is decoded can be shown.** -/
theorem Decoded.showable (h : Decoded v) : v.Showable := by
  obtain ⟨endpoint, query, status, body, outcome⟩ := h
  obtain ⟨t, -, read⟩ := read_of_outcome outcome
  cases document_of_read read with
  | mk _ derived _ => exact showable_of_derives derived

/-- A reply that holds what a value is shown as is decoded to the value. -/
theorem outcome_pretty (showable : v.Showable) (shallow : v.depth ≤ Reader.maxDepth)
    (scalar : query.isScalar = true) (success : 200 ≤ status ∧ status ≤ 299) :
    (execute endpoint query (.response status (Utf8.encode v.pretty))).outcome = .ok v := by
  have succeeded : isSuccess status = true := by simp [isSuccess, success]
  rw [outcome_execute endpoint _ scalar, receive]
  simp only [succeeded, if_true, readBody_eq, decodeBody_pretty showable,
    read_pretty showable shallow]

/-- **Rendering loses nothing.** For every value that an exchange decoded
and that nests at most 150 deep: it is rendered, and every exchange that is
answered with the UTF-8 bytes of the rendering comes to the value again; no
other value that is decoded is rendered so; and whatever the bytes are
decoded to is rendered the same once more. -/
theorem render_lossless (decoded : Decoded v) (shallow : v.depth ≤ 150) :
    ∃ text, v.render = .ok text ∧
      (∀ (endpoint : Endpoint) (query : Text) (status : Int),
        query.isScalar = true → 200 ≤ status ∧ status ≤ 299 →
        (execute endpoint query (.response status (Utf8.encode text))).outcome = .ok v) ∧
      (∀ w, Decoded w → w.render = .ok text → w = v) ∧
      (∀ (endpoint : Endpoint) (query : Text) (status : Int) (w : Json),
        (execute endpoint query (.response status (Utf8.encode text))).outcome = .ok w →
        w.render = .ok text) := by
  have showable := decoded.showable
  have shallow' : v.depth ≤ Reader.maxDepth := Nat.le_trans shallow (by decide)
  refine ⟨v.pretty, render_eq showable, ?_, ?_, ?_⟩
  · intro endpoint query status scalar success
    exact outcome_pretty showable shallow' scalar success
  · intro w decoded' rendered
    have showable' := decoded'.showable
    rw [render_eq showable'] at rendered
    exact eq_of_pretty_eq showable shallow' showable' (Except.ok.inj rendered)
  · -- the text of the body is the rendering, which reads as the value and as nothing else
    intro endpoint query status w outcome
    obtain ⟨t, text, read⟩ := read_of_outcome outcome
    rw [decodeBody_pretty showable] at text
    rw [← Except.ok.inj text, read_pretty showable shallow'] at read
    rw [← Except.ok.inj read]
    exact render_eq showable

/-- A reply with a repeated name, an escape and a surrogate. -/
theorem outcome_of_rendered_reply :
    (execute ⟨[], .zero⟩ "q" (.response 299 (Utf8.encode (Json.pretty
      (.object [("a", .string [.scalar '"', .surrogate 5]),
        ("b", .array [.int 0, .float (.finite true 0), .float .nan])]))))).outcome =
      .ok (.object [("a", .string [.scalar '"', .surrogate 5]),
        ("b", .array [.int 0, .float (.finite true 0), .float .nan])]) := by
  have decoded : Decoded (.object [("a", .string [.scalar '"', .surrogate 5]),
      ("b", .array [.int 0, .float (.finite true 0), .float .nan])]) :=
    ⟨⟨[], .zero⟩, "q", 200, Utf8.encode
      "\x7b\"a\": 1, \"b\": [0, -0.0, NaN], \"a\": \"\\\"\\ud805\"\x7d", by cbv⟩
  obtain ⟨text, rendered, back, -⟩ := render_lossless decoded (by decide)
  rw [render_eq decoded.showable] at rendered
  rw [Except.ok.inj rendered]
  exact back _ _ _ (by decide) (by decide)

end QueryConsole.Exchange
