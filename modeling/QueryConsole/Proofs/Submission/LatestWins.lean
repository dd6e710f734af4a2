import QueryConsole.Proofs.Submission.Coherent
/-!
# The latest submission wins

After any run in which nobody edits the outcome, the outcome of the state
is that of the latest submission alone (`outcome_of_latest`): its exchange,
its own cancellation, or nothing yet. Jobs and cancellations of older
submissions leave the state as it is (`state_runJob`, `state_cancel`),
whatever they come to.
-/

namespace QueryConsole.Submission.Machine

variable {setup : Setup} {m : Machine}

/-- What the exchange of a submission comes to: of its own query, its own
reply, and of whether its request left. -/
def exchange? (setup : Setup) (n : Nat) (m : Machine) : Option (Except Failure Json) :=
  (m.task? n).bind fun t => Exchange.outcome? setup.endpoint (m.hasSent n) t.query t.reply

theorem exchange?_eq {n : Nat} {t : Task} (ht : m.task? n = some t) :
    m.exchange? setup n =
      Exchange.outcome? setup.endpoint (m.hasSent n) t.query t.reply := by
  rw [exchange?, ht, Option.bind_some]

/-- The end of an exchange changes the state only for the latest
submission. -/
theorem state_conclude {n : Nat} (outcome : Except Failure Json) (older : n ≠ m.latest) :
    (m.conclude setup n outcome).state = m.state := by
  obtain ⟨m', heq, -, -, -, -, state⟩ := conclude_eq setup n m outcome
  rw [heq, state_finish, state, if_neg older]

/-- A step changes the state only for the latest submission. -/
theorem state_step {n : Nat} (older : n ≠ m.latest) : (m.step setup n).state = m.state := by
  have cases := stepped setup n m
  generalize m.step setup n = m' at cases
  cases cases with
  | idle _ => rfl
  | dropped _ _ _ => exact state_finish _
  | unsent _ _ _ _ => rw [state_conclude _ (by simpa using older), state_record]
  | sent _ _ _ _ _ => exact state_update _
  | answered _ _ _ _ _ =>
    rw [receive, state_conclude _ (by simpa using older), state_record, state_transmit,
      state_record]
  | stopped _ _ _ => exact state_conclude _ older
  | resumed _ _ _ _ => rw [receive, state_conclude _ (by simpa using older), state_record]

/-- And so does the report of an end. -/
theorem state_settle {n : Nat} (older : n ≠ m.latest) : (m.settle n).state = m.state := by
  have cases := settled n m
  generalize m.settle n = m' at cases
  cases cases with
  | idle _ => rfl
  | reported _ _ _ => exact state_update _
  | reset _ _ latest _ => exact absurd latest older

/-- **A job of a submission that is not the latest leaves the state as it
is.** -/
theorem state_runJob {job : Job} (older : job.sequence ≠ m.latest) :
    (m.runJob setup job).state = m.state := by
  cases job with
  | step n => exact state_step older
  | settle n => exact state_settle older
  | wake n => rfl

/-- **The latest submission wins.** After any run in which nobody edits the
outcome, the latest submission alone says what the outcome is. It loads
until the task has ended; a task that ended by itself shows its own result,
or the kind and the description of its own failure; a cancelled one leaves
the state loading until its end is reported, and idle from then on; and the
state loads for good where the failure of the task had no description. No
job or cancellation of an older submission changes the state. -/
theorem outcome_of_latest (setup : Setup) (queryText : Text) (actions : List Action)
    (ordinary : ∀ a ∈ actions, a.leavesOutcome = true) (m : Machine)
    (run : (new (.new queryText)).runFrom setup actions = m) (issued : 0 < m.latest) :
    (∃ t, m.task? m.latest = some t ∧
      (t.isDone = false → m.state.outcome = .loading) ∧
      (t.ending? = some .completed →
        (∃ result, m.exchange? setup m.latest = some (.ok result) ∧
          m.state.outcome = .success result) ∨
        (∃ failure message, m.exchange? setup m.latest = some (.error failure) ∧
          describe? setup failure = some (.ok message) ∧
          m.state.outcome = .error (shownKind failure) message)) ∧
      (∀ message, t.phase = .ended (.cancelled message) → m.state.outcome = .loading) ∧
      (∀ message, t.phase = .settled (.cancelled message) → m.state.outcome = .idle) ∧
      (∀ fault, t.ending? = some (.escaped fault) → m.state.outcome = .loading ∧
        ∃ failure, m.exchange? setup m.latest = some (.error failure) ∧
          describe? setup failure = some (.error fault))) ∧
    (∀ job : Job, job.sequence < m.latest → (m.runJob setup job).state = m.state) ∧
    (∀ n, (m.cancel n).state = m.state) := by
  subst run
  have coherent := coherent_runFrom setup queryText ordinary
  generalize (new (.new queryText)).runFrom setup actions = m at coherent issued ⊢
  obtain ⟨t, ht⟩ := Option.isSome_iff_exists.1 (task?_isSome.2 ⟨issued, Nat.le_refl m.latest⟩)
  have called := coherent.outcome t ht
  rw [exchange?_eq ht]
  refine ⟨⟨t, ht, ?_, ?_, ?_, ?_, ?_⟩, fun job older => state_runJob (Nat.ne_of_lt older),
    state_cancel⟩
  · intro under
    rw [called, calledFor_of_not_done under]
  · -- a task that ended by itself ended the way its own exchange did
    intro ended
    rcases coherent.ending ht ended with ⟨_, h⟩ | ⟨outcome, own, h⟩
    · simp at h
    · rw [calledFor_of_ending ended (by simp), if_pos rfl, own, Option.bind_some] at called
      rcases endingOf_eq_completed.1 h.symm with ⟨result, rfl⟩ | ⟨failure, message, rfl, hd⟩
      · exact .inl ⟨result, own, called⟩
      · refine .inr ⟨failure, message, own, hd, ?_⟩
        rw [called, shown?, hd, Option.getD_some]
  · intro message ended
    rw [called, Task.calledFor, ended]
  · intro message reported
    rw [called, Task.calledFor, reported]
  · intro fault ended
    rcases coherent.ending ht ended with ⟨_, h⟩ | ⟨outcome, own, h⟩
    · simp at h
    · obtain ⟨failure, rfl, hd⟩ := endingOf_eq_escaped.1 h.symm
      rw [calledFor_of_ending ended (by simp), if_neg (by simp)] at called
      exact ⟨called, failure, own, hd⟩

/-- Two submissions of which the later one is answered first. -/
def overlapping : List Action :=
  [.submit (some "a") none, .submit (some "b") none, .drain,
    .release 2 (.response 200 [0x32]), .drain, .release 1 (.response 200 [0x31]), .drain]

theorem outcome_of_latest_overlapping :
    ((new (.new [])).runFrom ⟨⟨[], .zero⟩, ⟨.empty, "en"⟩, none⟩ overlapping).state.outcome =
      .success (.int 2) := by
  obtain ⟨⟨t, ht, -, completed, -⟩, -⟩ := outcome_of_latest ⟨⟨[], .zero⟩, ⟨.empty, "en"⟩, none⟩
    [] overlapping (by decide) _ rfl (by decide)
  have ended : t.ending? = some .completed := by
    rw [← Option.some.inj ht]
    rfl
  rcases completed ended with ⟨result, own, shown⟩ | ⟨failure, _, own, -, -⟩
  · rw [shown]
    exact congrArg _ (Except.ok.inj (Option.some.inj own)).symm
  · exact absurd (Option.some.inj own) (by rintro ⟨⟩)

end QueryConsole.Submission.Machine
