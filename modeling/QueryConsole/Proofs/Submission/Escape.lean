import Mathlib
import QueryConsole.Proofs.Catalog.Description
import QueryConsole.Proofs.Submission.LatestWins
/-!
# Faults that escape

A failure is described before it is applied, and a fault in the description
escapes from the task. `escaped_iff_undescribed` says when this happens:
exactly when a task ends by itself, with a failure that the catalogs cannot
describe. A state that still loads when every end has been reported is the
other face of it. With catalogs that describe what fails, every task ends
normally or cancelled and no state is left loading; a single brace in a
catalog is enough to break that (`loading_after_single_brace`).
-/

namespace QueryConsole.Submission

/-- The message with which a failure is described, and what is put in. -/
def descriptionOf : Failure → Option (Text × Template.Arguments)
  | .refused (.httpStatus status) => some ("errors.http_status", [("status_code", .int status)])
  | .refused (.parse message) => some ("errors.parse", [("detail", .text message)])
  | .refused (.general message) => some ("errors.transport", [("detail", .text message)])
  | .refused (.transport message) => some ("errors.transport", [("detail", .text message)])
  | .crashed crash => some ("errors.unexpected", [("detail", .text crash.detail)])
  | .cancelled _ => none

/-- **One description for all failures**: the message is looked up for the
locale of the setup. -/
theorem describe?_eq (setup : Setup) (failure : Failure) :
    describe? setup failure =
      (descriptionOf failure).map fun d => setup.messages.describe d.1 setup.locale d.2 := by
  cases failure with
  | refused refusal => cases refusal <;> rfl
  | crashed crash => rfl
  | cancelled message => rfl

/-- A failure that the catalogs cannot describe, and the fault that arises
instead. -/
def Undescribed (setup : Setup) (failure : Failure) (fault : Catalog.Fault) : Prop :=
  ∃ key arguments, descriptionOf failure = some (key, arguments) ∧
    setup.messages.Undescribed key arguments (setup.messages.languages setup.locale) fault

theorem undescribed_iff {setup : Setup} {failure : Failure} {fault : Catalog.Fault} :
    Undescribed setup failure fault ↔ describe? setup failure = some (.error fault) := by
  simp only [Undescribed, describe?_eq, Option.map_eq_some_iff, Prod.exists,
    Catalog.Messages.describe_eq_error_iff]

namespace Machine

variable {setup : Setup} {m : Machine}

/-- Where nothing has been issued there is no task. -/
theorem task?_of_latest_zero (h : m.latest = 0) (n : Nat) : m.task? n = none := by
  cases ht : m.task? n with
  | none => rfl
  | some t =>
    have := task?_isSome.1 (Option.isSome_iff_exists.2 ⟨t, ht⟩)
    omega

/-- **Until the first submission the state is idle**, whatever is done. -/
theorem kept_idle (setup : Setup) :
    Kept setup fun m => m.latest = 0 → m.state.outcome = .idle where
  setText _ _ h := h
  submit m text reply _ fresh := by
    rw [latest_submit] at fresh
    omega
  release m n reply h fresh := by
    rw [latest_release] at fresh
    rw [state_release]
    exact h fresh
  cancel m n h fresh := by
    rw [latest_cancel] at fresh
    rw [state_cancel]
    exact h fresh
  watch m n h fresh := by
    rw [watch, latest_update] at fresh
    rw [watch, state_update]
    exact h fresh
  turn m h fresh := by
    rw [latest_turn] at fresh
    rw [turn]
    split
    · exact h fresh
    · next job rest _ =>
      have nothing : ({ m with queue := rest } : Machine).task? job.sequence = none :=
        task?_of_latest_zero fresh _
      rw [runJob_of_none nothing]
      exact h fresh
  closeClient _ h := h

theorem mem_of_task? {n : Nat} {t : Task} (ht : m.task? n = some t) : t ∈ m.tasks := by
  cases n with
  | zero => simp at ht
  | succ i => exact List.mem_of_getElem? ht

/-- **The latest task, when its end is reported**, leaves the state loading
exactly if a fault escaped from it. -/
theorem Coherent.loading_iff_escaped (h : Coherent setup m) {t : Task}
    (ht : m.task? m.latest = some t) (reported : t.isSettled = true) :
    m.state.status = .loading ↔ ∃ fault, t.ending? = some (.escaped fault) := by
  obtain ⟨ending, hp⟩ : ∃ ending, t.phase = .settled ending := by
    rw [Task.isSettled] at reported
    split at reported
    · next ending hp => exact ⟨ending, hp⟩
    · simp at reported
  have ended : t.ending? = some ending := by rw [Task.ending?, hp]
  have called := h.outcome t ht
  rw [ended, Query.State.status]
  cases ending with
  | cancelled message =>
    rw [called, Task.calledFor, hp]
    simp [Query.Outcome.status]
  | escaped fault =>
    rw [called, calledFor_of_ending ended (by simp), if_neg (by simp)]
    simp [Query.Outcome.status]
  | completed =>
    rcases h.ending ht ended with ⟨_, same⟩ | ⟨outcome, own, same⟩
    · simp at same
    · rw [called, calledFor_of_ending ended (by simp), if_pos rfl, own, Option.bind_some]
      rcases endingOf_eq_completed.1 same.symm with ⟨result, rfl⟩ | ⟨failure, message, rfl, hd⟩
      · simp [shown?, Query.Outcome.status]
      · simp [shown?, hd, Query.Outcome.status]

/-- **When faults escape, and what they leave behind.** After any run in
which nobody edits the outcome, a task has ended with a fault exactly if it
was not cancelled and its own exchange failed with something that the
catalogs cannot describe, which gives that fault. All other tasks end
normally or cancelled. And when every end has been reported, the state still
loads exactly if the latest task ended with a fault. -/
theorem escaped_iff_undescribed (setup : Setup) (queryText : Text) (actions : List Action)
    (ordinary : ∀ a ∈ actions, a.leavesOutcome = true) (m : Machine)
    (run : (new (.new queryText)).runFrom setup actions = m) :
    (∀ n t fault, m.task? n = some t →
      (t.ending? = some (.escaped fault) ↔
        t.isDone = true ∧ (∀ message, t.ending? ≠ some (.cancelled message)) ∧
          ∃ failure, m.exchange? setup n = some (.error failure) ∧
            Undescribed setup failure fault)) ∧
    ((∀ t ∈ m.tasks, t.isSettled = true) →
      (m.state.status = .loading ↔
        ∃ t fault, m.task? m.latest = some t ∧ t.ending? = some (.escaped fault))) := by
  subst run
  have coherent := coherent_runFrom setup queryText ordinary
  have idle := (kept_idle setup).runFrom (m := new (.new queryText)) ordinary fun _ => rfl
  generalize (new (.new queryText)).runFrom setup actions = m at coherent idle ⊢
  refine ⟨fun n t fault ht => ⟨fun ended => ?_, ?_⟩, fun reported => ⟨fun loading => ?_, ?_⟩⟩
  · -- a fault comes only of a failure of the task's own exchange
    refine ⟨by rw [Task.isDone, ended]; rfl, by simp [ended], ?_⟩
    rcases coherent.ending ht ended with ⟨_, same⟩ | ⟨outcome, own, same⟩
    · simp at same
    · obtain ⟨failure, rfl, hd⟩ := endingOf_eq_escaped.1 same.symm
      exact ⟨failure, (exchange?_eq ht).trans own, undescribed_iff.2 hd⟩
  · rintro ⟨done, own, failure, exchanged, undescribed⟩
    obtain ⟨ending, ended⟩ := Option.isSome_iff_exists.1 done
    rcases coherent.ending ht ended with ⟨message, rfl⟩ | ⟨outcome, own', rfl⟩
    · exact absurd ended (own message)
    · rw [exchange?_eq ht, own'] at exchanged
      obtain rfl := Option.some.inj exchanged
      rw [ended, endingOf_eq_escaped.2 ⟨failure, rfl, undescribed_iff.1 undescribed⟩]
  · -- without a submission the state is idle, and otherwise it shows the latest
    rcases Nat.eq_zero_or_pos m.latest with fresh | issued
    · simp [Query.State.status, idle fresh, Query.Outcome.status] at loading
    · obtain ⟨t, ht⟩ := Option.isSome_iff_exists.1 (task?_isSome.2 ⟨issued, Nat.le_refl m.latest⟩)
      obtain ⟨fault, ended⟩ :=
        (coherent.loading_iff_escaped ht (reported t (mem_of_task? ht))).1 loading
      exact ⟨t, fault, ht, ended⟩
  · rintro ⟨t, fault, ht, ended⟩
    exact (coherent.loading_iff_escaped ht (reported t (mem_of_task? ht))).2 ⟨fault, ended⟩

theorem escaped_iff_undescribed_overlapping :
    ((new (.new [])).runFrom ⟨⟨[], .zero⟩, ⟨.empty, "en"⟩, none⟩ overlapping).state.status ≠
      .loading := by
  obtain ⟨-, left⟩ := escaped_iff_undescribed ⟨⟨[], .zero⟩, ⟨.empty, "en"⟩, none⟩
    [] overlapping (by decide) _ rfl
  rw [Ne, left (by decide)]
  rintro ⟨t, fault, ht, ended⟩
  rw [← Option.some.inj ht] at ended
  exact absurd ended (by rintro ⟨⟩)

/-- A catalog in which the message for a broken connection is a single
brace. -/
def braced : Setup :=
  ⟨⟨[], .zero⟩, ⟨⟨[], [], [(["en.json"],
    Utf8.encode "\x7b\"errors.transport\": \"\x7b\"\x7d")]⟩, "en"⟩, none⟩

/-- **A single brace leaves the state loading.** The task of the only
submission ends with a fault of the template, its end is reported, and the
state loads on. -/
theorem loading_after_single_brace :
    let m := (new (.new [])).runFrom braced
      [.submit (some "q") (some (.broken "ConnectError" "x")), .drain]
    m.tasks.map (·.phase) = [.settled (.escaped (.template .singleOpen))] ∧
      m.state.status = .loading := by
  refine ⟨?_, ?_⟩ <;> cbv

end Machine

end QueryConsole.Submission
