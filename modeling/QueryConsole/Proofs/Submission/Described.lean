import QueryConsole.Proofs.Catalog.Bundled
import QueryConsole.Proofs.Submission.Job
/-!
# Failures in the words of the console

With the catalogs that come with the console every failure can be described,
in any language, but for a status that is too long to be written
(`describe?_bundled`).
-/

namespace QueryConsole.Submission

/-- Whether what a failure is described with can be written: an integer may
have at most 4300 digits. -/
def isWritable : Failure → Bool
  | .refused (.httpStatus status) =>
    (Digits.ofNat status.natAbs).length ≤ Template.Value.maxIntegerDigits
  | _ => true

variable {setup : Setup} {failure : Failure}

/-- The keys of the messages that a detail is put into. -/
def detailKeys : List String :=
  ["errors.transport", "errors.parse", "errors.unexpected"]

theorem framed_of_mem_detailKeys :
    ∀ key ∈ detailKeys, ∃ f ∈ Catalog.framed, f.key = key ∧ f.word = "detail" := by
  decide

/-- **Any detail can be put into them.** -/
theorem describe_detail (key : String) (h : setup.messages.directory = Catalog.bundled)
    (known : key ∈ detailKeys) (detail : Text) :
    ∃ message, setup.messages.describe (Text.ofString key) setup.locale
      [("detail", .text detail)] = .ok message := by
  obtain ⟨f, mem, rfl, word⟩ := framed_of_mem_detailKeys key known
  exact Catalog.describe_bundled h mem (by rw [word]; rfl) rfl _

/-- So can a status that can be written. -/
theorem describe_status (h : setup.messages.directory = Catalog.bundled) {status : Int}
    (writable : isWritable (.refused (.httpStatus status)) = true) :
    ∃ message, setup.messages.describe "errors.http_status" setup.locale
      [("status_code", .int status)] = .ok message := by
  have short : ¬ Template.Value.maxIntegerDigits < (Digits.ofNat status.natAbs).length := by
    simpa [isWritable] using writable
  have text : ∃ shown, (Template.Value.int status).toText = .ok shown := by
    simp only [Template.Value.toText, Template.Value.intText, Template.Value.decimalDigits,
      if_neg short, Except.map, Except.ok.injEq, exists_eq']
  obtain ⟨shown, text⟩ := text
  exact Catalog.describe_bundled h
    (f := ⟨"errors.http_status", "Network response was not ok (status ", "status_code", ")"⟩)
    (by simp [Catalog.framed]) rfl text _

/-- **Every failure can be described** that is no cancellation, if it can be
written. -/
theorem describe?_bundled (h : setup.messages.directory = Catalog.bundled)
    (own : ∀ message, failure ≠ .cancelled message) (writable : isWritable failure = true) :
    ∃ message, describe? setup failure = some (.ok message) := by
  match failure with
  | .refused (.httpStatus status) =>
    obtain ⟨message, described⟩ := describe_status h writable
    exact ⟨message, congrArg some described⟩
  | .refused (.parse detail) =>
    obtain ⟨message, described⟩ := describe_detail "errors.parse" h (by decide) detail
    exact ⟨message, congrArg some described⟩
  | .refused (.general detail) | .refused (.transport detail) =>
    obtain ⟨message, described⟩ := describe_detail "errors.transport" h (by decide) detail
    exact ⟨message, congrArg some described⟩
  | .crashed crash =>
    obtain ⟨message, described⟩ :=
      describe_detail "errors.unexpected" h (by decide) crash.detail
    exact ⟨message, congrArg some described⟩
  | .cancelled message => exact absurd rfl (own message)

end QueryConsole.Submission
