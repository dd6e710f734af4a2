import QueryConsole.Proofs.Endpoint.Rendering
import QueryConsole.Proofs.Text.WideForms
/-!
# The encoding of a reply makes no difference

A document begins with a character of ASCII, be it a blank or the opening of
its value, and has no code point zero (`Json.Grammar.Document.begins`).
That is all that the encoding of a body is known by, so a document may come in
any of the five forms and with or without a mark: the exchange comes to the
value that the document holds (`outcome_of_encoded`).
-/

namespace QueryConsole

open Json Json.Reader

/-- **What a document begins with** is a character of ASCII, and none of its
code points is zero. -/
theorem Json.Grammar.Document.begins {t : Text} {v : Json} (h : Grammar.Document t v) :
    (∀ p ∈ t, p.value ≠ 0) ∧ ∃ c rest, t = c :: rest ∧ c.value < 0x80 := by
  cases h with
  | @mk b u a v blanks derived blanks' =>
    refine ⟨?_, ?_⟩
    · simp only [List.forall_mem_append]
      exact ⟨ne_zero_of_blanks blanks, ne_zero_of_derives derived, ne_zero_of_blanks blanks'⟩
    · cases b with
      | nil =>
        obtain ⟨c, rest, rfl, opening⟩ := Opens.of_derives derived
        exact ⟨c, rest ++ a, rfl, ascii_of_opening opening⟩
      | cons c b =>
        have small : ∀ p ∈ Text.ofString " \t\n\r", p.value < 0x80 := by decide
        exact ⟨c, b ++ (u ++ a), rfl, small c (blanks c List.mem_cons_self)⟩

namespace Exchange

/-- **A document may come in any encoding.** For every document of scalar
values that nests at most 150 deep, every form, and a body that holds the
document in that form, with or without the mark: a query that can be sent and
is answered with the body and a successful status comes to the value that the
document holds, and this is rendered. -/
theorem outcome_of_encoded {endpoint : Endpoint} {query t : Text} {v : Json} {status : Int}
    (sendable : query.isScalar = true) (success : 200 ≤ status ∧ status ≤ 299)
    (document : Grammar.Document t v) (scalar : t.isScalar = true) (shallow : nesting t ≤ 150)
    (e : Encoding) {body : Bytes} (written : body = e.encode t ∨ body = e.mark ++ e.encode t) :
    (execute endpoint query (.response status body)).outcome = .ok v ∧
      v.render = .ok v.pretty := by
  have succeeded : isSuccess status = true := by simp [isSuccess, success]
  have decoded : Encoding.decodeBody body = .ok t := by
    obtain ⟨positive, c, rest, rfl, ascii⟩ := document.begins
    exact Encoding.decodeBody_of_written ascii positive scalar e written
  have read : Json.read t = .ok v :=
    (read_eq_ok_iff (Nat.le_trans shallow (by decide)) v).2 document
  have outcome : (execute endpoint query (.response status body)).outcome = .ok v := by
    rw [outcome_execute endpoint _ sendable, receive]
    simp only [succeeded, if_true, readBody_eq, decoded, read]
  exact ⟨outcome, render_eq (Decoded.showable ⟨endpoint, query, status, body, outcome⟩)⟩

/-- A blank, a character of two bytes and one of four in UTF-16 with its
mark. -/
theorem outcome_of_encoded_pair :
    (execute ⟨[], .zero⟩ "q" (.response 204 (Encoding.mark (.utf16 .little) ++
      Encoding.encode (.utf16 .little) " [\"é😀\"]"))).outcome =
        .ok (.array [.string "é😀"]) :=
  (outcome_of_encoded (by decide) (by decide) (document_of_read (by cbv)) (by decide)
    (by cbv) (.utf16 .little) (.inr rfl)).1

end Exchange

end QueryConsole
