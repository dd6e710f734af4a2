import Mathlib
import QueryConsole.Endpoint.Exchange
import QueryConsole.Proofs.Json.Documents
import QueryConsole.Proofs.Text.Utf8
/-!
# Which bodies are accepted

The body of a successful response is accepted exactly if it is JSON.
`outcome_eq_ok_iff_document` says so for a whole exchange: where the bytes
decode to a text, the outcome is a value exactly if the text is a document
that holds it, and everything else is refused as no JSON. Only nesting is
bounded, since the reader goes down no deeper than `Reader.maxDepth`.
-/

namespace QueryConsole.Exchange

open Json

/-- A query without surrogates comes to what its reply comes to. -/
theorem outcome_execute {query : Text} (endpoint : Endpoint) (reply : Reply)
    (scalar : query.isScalar = true) :
    (execute endpoint query reply).outcome = (receive endpoint reply).outcome := by
  have encoded : Utf8.encodeScalars query = .ok (Utf8.encode query) :=
    Utf8.encodeScalars_eq_ok_iff.2 ⟨scalar, rfl⟩
  rcases send_cases endpoint query with ⟨fault, failed, -⟩ | ⟨body, -, opened, -⟩
  · simp [encoded] at failed
  · simp only [execute, opened]

/-- A body is refused as no JSON, or found too deep, or accepted. -/
theorem readBody_eq (body : Bytes) :
    readBody body = match Encoding.decodeBody body with
      | .error fault => .error (.refused (.parse fault.message))
      | .ok t => match Json.read t with
        | .ok v => .ok v
        | .error (.tooDeep bracket) => .error (.crashed (.tooDeep bracket))
        | .error fault => .error (.refused (.parse (fault.message t))) := by
  rw [readBody, Document.read]
  cases Encoding.decodeBody body with
  | error fault => rfl
  | ok t =>
    simp only
    cases Json.read t with
    | ok v => rfl
    | error fault => cases fault <;> rfl

/-- **A body is accepted exactly if it is JSON.** For every query that can
be sent and every successful status: where the bytes of the body decode to
a text whose brackets nest at most 150 deep, the outcome is a value exactly
if the text is a document that holds this value, and a text that is no
document is refused as no JSON; so are bytes that do not decode. -/
theorem outcome_eq_ok_iff_document (endpoint : Endpoint) (query : Text) (status : Int)
    (body : Bytes) (scalar : query.isScalar = true) (success : 200 ≤ status ∧ status ≤ 299) :
    (∀ t, Encoding.decodeBody body = .ok t → nesting t ≤ 150 →
      (∀ v, (execute endpoint query (.response status body)).outcome = .ok v ↔
        Grammar.Document t v) ∧
      ((∀ v, ¬ Grammar.Document t v) →
        ∃ message, (execute endpoint query (.response status body)).outcome =
          .error (.refused (.parse message)))) ∧
    (∀ fault, Encoding.decodeBody body = .error fault →
      ∃ message, (execute endpoint query (.response status body)).outcome =
        .error (.refused (.parse message))) := by
  have succeeded : isSuccess status = true := by simp [isSuccess, success]
  rw [outcome_execute endpoint _ scalar, receive]
  simp only [succeeded, if_true, readBody_eq]
  refine ⟨fun t decoded shallow => ?_, fun fault undecoded => ?_⟩
  · have shallow' : nesting t ≤ Reader.maxDepth := Nat.le_trans shallow (by decide)
    simp only [decoded]
    refine ⟨fun v => ?_, fun none => ?_⟩
    · rw [← read_eq_ok_iff shallow']
      cases Json.read t with
      | ok w => simp
      | error fault => cases fault <;> simp
    · cases read : Json.read t with
      | ok w => exact absurd (document_of_read read) (none w)
      | error fault =>
        cases fault with
        | tooDeep bracket => exact absurd read (read_ne_tooDeep shallow' bracket)
        | malformed complaint remaining => exact ⟨_, rfl⟩
        | integerTooLong digits => exact ⟨_, rfl⟩
  · simp only [undecoded]
    exact ⟨_, rfl⟩

/-- A name that stands twice, read from the bytes of a reply. -/
theorem document_of_repeated_name :
    Grammar.Document "\x7b\"a\": 1, \"b\": [NaN], \"a\": 0\x7d"
      (.object [("a", .int 0), ("b", .array [.float .nan])]) :=
  ((outcome_eq_ok_iff_document ⟨[], .zero⟩ "q" 200
    (Utf8.encode "\x7b\"a\": 1, \"b\": [NaN], \"a\": 0\x7d") (by decide)
    (by decide)).1 _ (by cbv) (by cbv)).1 _ |>.1 (by cbv)

end QueryConsole.Exchange
