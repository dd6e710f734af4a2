import QueryConsole.Proofs.Json.Nesting
/-!
# Documents are what is read

`read_eq_ok_iff` puts the two directions together: a text that nests no
deeper than is read gives a value exactly if it is a document that holds
that value. Nothing that nests so deep is too deep (`read_ne_tooDeep`).
-/

namespace QueryConsole.Json

open Grammar Reader

theorem document_of_read {t : Text} {v : Json} (h : read t = .ok v) : Document t v := by
  rw [read] at h
  obtain ⟨b, before, blanks⟩ := skipBlanks_sound t
  cases value : value maxDepth (skipBlanks t) with
  | error fault => simp [value, bind, Except.bind] at h
  | ok r =>
    obtain ⟨w, rest⟩ := r
    simp only [value, bind, Except.bind] at h
    obtain ⟨u, same, derived⟩ := value_sound maxDepth _ _ _ value
    obtain ⟨a, after, blanks'⟩ := skipBlanks_sound rest
    split at h
    · next nothing =>
      rw [nothing, List.append_nil] at after
      rw [before, same, after, ← Except.ok.inj h]
      exact .mk blanks derived blanks'
    · simp at h

/-- A document is read, or it is too deep. -/
theorem read_of_document {t : Text} {v : Json} (h : Document t v) :
    read t = .ok v ∨ ∃ bracket, read t = .error (.tooDeep bracket) := by
  cases h with
  | @mk b u a v blanks derived blanks' =>
    have nothing : skipBlanks a = [] := by
      have := skipBlanks_append blanks' (t := []) (by simp)
      rwa [List.append_nil] at this
    have follows : Follows a := by
      have := Follows.blanks blanks' (t := []) (by simp [Follows])
      rwa [List.append_nil] at this
    rw [read, ((Opens.of_derives derived).append a).skipBlanks_append blanks]
    rcases derived_reads derived maxDepth a follows with value | ⟨bracket, value⟩
    · left
      simp only [value, bind, Except.bind, nothing]
    · simp only [value, bind, Except.bind]
      exact .inr ⟨bracket, rfl⟩

/-- A text that nests no deeper than is read is not too deep. -/
theorem read_ne_tooDeep {t : Text} (shallow : nesting t ≤ maxDepth) (bracket : Bracket) :
    read t ≠ .error (.tooDeep bracket) := by
  intro h
  rw [read] at h
  cases value : value maxDepth (skipBlanks t) with
  | error fault =>
    simp only [value, bind, Except.bind, Except.error.injEq] at h
    have deeper := value_bounded maxDepth 0 _ bracket (by rw [value, h])
    rw [deepest_skipBlanks] at deeper
    exact absurd shallow (by rw [nesting]; omega)
  | ok r =>
    simp only [value, bind, Except.bind] at h
    split at h <;> simp at h

/-- **The documents are the texts that are read**, each with the value that
it denotes, up to the depth that is read. -/
theorem read_eq_ok_iff {t : Text} (shallow : nesting t ≤ maxDepth) (v : Json) :
    read t = .ok v ↔ Document t v := by
  refine ⟨document_of_read, fun document => ?_⟩
  rcases read_of_document document with value | ⟨bracket, deep⟩
  · exact value
  · exact absurd deep (read_ne_tooDeep shallow bracket)

end QueryConsole.Json
