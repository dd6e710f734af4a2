import QueryConsole.Proofs.Submission.Kept
/-!
# Tasks, requests and the state agree

`Coherent` is the invariant of a machine whose outcome nobody edits: a task
has sent its request exactly from its first wait on, a task that ended by
itself ended the way its own exchange did, and the state shows what the
latest task alone calls for. Every move keeps it (`kept_coherent`), so it
holds after every run (`coherent_runFrom`).

An exchange is told by what the machine still knows of it: the query and
the reply of the task, and whether its request left, which it does exactly
when the client was open and the query could be sent.
-/

namespace QueryConsole

/-- What an exchange comes to over a client that is open or closed, with
the reply that has come, if one has. -/
def Exchange.outcome? (endpoint : Endpoint) (isOpen : Bool) (query : Text)
    (reply : Option Reply) : Option (Except Failure Json) :=
  match (Exchange.send endpoint isOpen query).outcome with
  | .error failure => some (.error failure)
  | .ok _ => reply.map fun r => (Exchange.receive endpoint r).outcome

namespace Exchange

variable {endpoint : Endpoint} {isOpen : Bool} {query : Text}

/-- A request leaves only over an open client. -/
theorem isOpen_of_send {request : Request}
    (h : (send endpoint isOpen query).outcome = .ok request) : isOpen = true := by
  cases isOpen with
  | true => rfl
  | false =>
    rcases send_cases endpoint query with ⟨fault, -, kept⟩ | ⟨body, -, -, closed⟩
    · simp [kept] at h
    · simp [closed] at h

/-- What keeps a request from leaving would keep it from leaving over a
closed client. -/
theorem send_closed_of_error {failure : Failure}
    (h : (send endpoint isOpen query).outcome = .error failure) :
    (send endpoint false query).outcome = .error failure := by
  rcases send_cases endpoint query with ⟨fault, -, kept⟩ | ⟨body, -, opened, -⟩
  · rw [kept, ← h, kept]
  · cases isOpen with
    | true => simp [opened] at h
    | false => exact h

end Exchange

namespace Submission

/-- What is known of a task by its phase, given whether its request has
been sent. -/
def Task.Consistent (setup : Setup) (sent : Bool) (t : Task) : Prop :=
  match t.phase with
  | .unstarted => sent = false
  | .waiting | .resuming =>
    sent = true ∧ ∃ request, (Exchange.send setup.endpoint true t.query).outcome = .ok request
  | .ended ending | .settled ending =>
    (∃ message, ending = .cancelled message) ∨
      ∃ outcome, Exchange.outcome? setup.endpoint sent t.query t.reply = some outcome ∧
        ending = endingOf setup outcome

/-- What a task calls for as the latest one. -/
def Task.calledFor (setup : Setup) (sent : Bool) (t : Task) : Query.Outcome :=
  match t.phase with
  | .settled (.cancelled _) => .idle
  | .ended .completed | .settled .completed =>
    ((Exchange.outcome? setup.endpoint sent t.query t.reply).bind (shown? setup)).getD .loading
  | _ => .loading

namespace Machine

variable {setup : Setup} {m : Machine} {n : Nat}

/-- **The tasks of a machine, its requests and its state agree.** -/
structure Coherent (setup : Setup) (m : Machine) : Prop where
  /-- Requests are those of submissions that were issued. -/
  sent_le : ∀ s ∈ m.wire, s.sequence ≤ m.latest
  /-- Every task is consistent with what was sent. -/
  task : ∀ k t, m.task? k = some t → t.Consistent setup (m.hasSent k)
  /-- The state shows what the latest task calls for. -/
  outcome : ∀ t, m.task? m.latest = some t →
    m.state.outcome = t.calledFor setup (m.hasSent m.latest)

/-- The same with one task left out, and the state if that is the latest. -/
structure CoherentBut (setup : Setup) (n : Nat) (m : Machine) : Prop where
  sent_le : ∀ s ∈ m.wire, s.sequence ≤ m.latest
  task : ∀ k t, k ≠ n → m.task? k = some t → t.Consistent setup (m.hasSent k)
  outcome : n ≠ m.latest → ∀ t, m.task? m.latest = some t →
    m.state.outcome = t.calledFor setup (m.hasSent m.latest)

theorem hasSent_congr {m' : Machine} (h : m'.wire = m.wire) (k : Nat) :
    m'.hasSent k = m.hasSent k := by
  rw [hasSent, hasSent, h]

/-- No request is there of a submission that is still to be issued. -/
theorem Coherent.hasSent_next (h : Coherent setup m) : m.hasSent (m.latest + 1) = false := by
  rw [hasSent, List.any_eq_false]
  intro s hs
  have := h.sent_le s hs
  simp only [beq_iff_eq]
  omega

/-- A task that has not ended calls for loading. -/
theorem calledFor_of_not_done {t : Task} {sent : Bool} (h : t.isDone = false) :
    t.calledFor setup sent = .loading := by
  rw [Task.isDone, Task.ending?] at h
  rw [Task.calledFor]
  cases hp : t.phase with
  | ended _ | settled _ => simp [hp] at h
  | unstarted | waiting | resuming => rfl

/-- What a task that ended calls for, reported or not, unless it was
cancelled. -/
theorem calledFor_of_ending {t : Task} {sent : Bool} {ending : Ending}
    (h : t.ending? = some ending) (own : ∀ message, ending ≠ .cancelled message) :
    t.calledFor setup sent =
      if ending = .completed then
        ((Exchange.outcome? setup.endpoint sent t.query t.reply).bind (shown? setup)).getD .loading
      else .loading := by
  rw [Task.ending?] at h
  rw [Task.calledFor]
  cases hp : t.phase with
  | unstarted | waiting | resuming => simp [hp] at h
  | ended e | settled e =>
    obtain rfl : e = ending := by simpa [hp] using h
    cases e with
    | completed | escaped _ => simp
    | cancelled message => exact absurd rfl (own message)

/-- A task that ended was cancelled or ended the way its own exchange
did. -/
theorem Coherent.ending (h : Coherent setup m) {t : Task} (ht : m.task? n = some t)
    {ending : Ending} (ended : t.ending? = some ending) :
    (∃ message, ending = .cancelled message) ∨
      ∃ outcome, Exchange.outcome? setup.endpoint (m.hasSent n) t.query t.reply = some outcome ∧
        ending = endingOf setup outcome := by
  have consistent := h.task n t ht
  rw [Task.ending?] at ended
  rw [Task.Consistent] at consistent
  cases hp : t.phase with
  | unstarted | waiting | resuming => simp [hp] at ended
  | ended e | settled e =>
    obtain rfl : e = ending := by simpa [hp] using ended
    simpa [hp] using consistent

/-- Any task may be left out. -/
theorem Coherent.but (h : Coherent setup m) (n : Nat) : CoherentBut setup n m :=
  ⟨h.sent_le, fun k t _ => h.task k t, fun _ => h.outcome⟩

/-- While the latest task is under way the state loads. -/
theorem Coherent.loading (h : Coherent setup m) {t : Task} (ht : m.task? n = some t)
    (under : t.isDone = false) (hn : n = m.latest) : m.state.outcome = .loading := by
  subst hn
  rw [h.outcome t ht, calledFor_of_not_done under]

/-- **The task that was left out comes back**, changed: it has to be
consistent, and if it is the latest the state has to show what it calls
for. -/
theorem CoherentBut.restore {m' : Machine} (h : CoherentBut setup n m) (t' : Task)
    (tasks : ∀ k, m'.task? k = if k = n then some t' else m.task? k)
    (latest : m'.latest = m.latest) (wire : m'.wire = m.wire)
    (consistent : t'.Consistent setup (m.hasSent n))
    (other : n ≠ m.latest → m'.state.outcome = m.state.outcome)
    (own : n = m.latest → m'.state.outcome = t'.calledFor setup (m.hasSent n)) :
    Coherent setup m' := by
  refine ⟨?_, ?_, ?_⟩
  · rw [wire, latest]
    exact h.sent_le
  · intro k t hk
    rw [hasSent_congr wire]
    rw [tasks] at hk
    split at hk
    · next same =>
      obtain rfl := Option.some.inj hk
      exact same ▸ consistent
    · next differs => exact h.task k t differs hk
  · intro t ht
    rw [latest] at ht ⊢
    rw [hasSent_congr wire]
    rw [tasks] at ht
    split at ht
    · next same =>
      obtain rfl := Option.some.inj ht
      rw [own same.symm, same]
    · next differs =>
      rw [other (Ne.symm differs)]
      exact h.outcome (Ne.symm differs) t ht

/-- A change of a task that does not change what it calls for. -/
theorem Coherent.update (h : Coherent setup m) {t : Task} (ht : m.task? n = some t)
    {change : Task → Task}
    (consistent : t.Consistent setup (m.hasSent n) → (change t).Consistent setup (m.hasSent n))
    (calls : n = m.latest →
      (change t).calledFor setup (m.hasSent n) = t.calledFor setup (m.hasSent n)) :
    Coherent setup (m.update n change) := by
  refine (h.but n).restore (change t) ?_ (by simp) (by simp) (consistent (h.task n t ht))
    (by simp) ?_
  · intro k
    rw [task?_update]
    split
    · next same => rw [same, ht]; rfl
    · rfl
  · intro hn
    rw [state_update, calls hn]
    subst hn
    exact h.outcome t ht

/-- **The end of a task under way restores the agreement**, if the task ends
the way its own exchange did or was cancelled, and the state shows the
exchange if the task is the latest. -/
theorem CoherentBut.finish {m' : Machine} (h : CoherentBut setup n m) {t : Task}
    (ht : m.task? n = some t) (loading : n = m.latest → m.state.outcome = .loading)
    {outcome : Except Failure Json}
    (own : (∃ message, outcome = .error (.cancelled message)) ∨
      Exchange.outcome? setup.endpoint (m.hasSent n) t.query t.reply = some outcome)
    (tasks : ∀ k, m'.task? k = m.task? k) (latest : m'.latest = m.latest)
    (wire : m'.wire = m.wire)
    (state : m'.state = if n = m.latest then
      { m.state with outcome := (shown? setup outcome).getD m.state.outcome } else m.state) :
    Coherent setup (m'.finish n (endingOf setup outcome)) := by
  refine h.restore { t with phase := .ended (endingOf setup outcome) } ?_
    (by simpa using latest) (by simpa using wire) ?_ ?_ ?_
  · intro k
    rw [task?_finish, tasks]
    split
    · next same => rw [same, ht]; rfl
    · rfl
  · rcases own with ⟨message, rfl⟩ | own
    · exact .inl ⟨message, rfl⟩
    · exact .inr ⟨outcome, own, rfl⟩
  · intro hn
    rw [state_finish, state, if_neg hn]
  · intro hn
    rw [state_finish, state, if_pos hn, loading hn]
    rcases own with ⟨message, rfl⟩ | own
    · rfl
    · match outcome, own with
      | .ok result, own => simp [Task.calledFor, endingOf, own]
      | .error (.cancelled message), own => rfl
      | .error (.refused refusal), own =>
        cases hd : describeRefusal setup refusal <;>
          simp [Task.calledFor, endingOf, describe?, shown?, own, hd]
      | .error (.crashed crash), own =>
        cases hd : describeCrash setup crash <;>
          simp [Task.calledFor, endingOf, describe?, shown?, own, hd]

/-- And so does the end of its exchange. -/
theorem CoherentBut.conclude (h : CoherentBut setup n m) {t : Task} (ht : m.task? n = some t)
    (loading : n = m.latest → m.state.outcome = .loading) {outcome : Except Failure Json}
    (own : (∃ message, outcome = .error (.cancelled message)) ∨
      Exchange.outcome? setup.endpoint (m.hasSent n) t.query t.reply = some outcome) :
    Coherent setup (m.conclude setup n outcome) := by
  obtain ⟨m', heq, tasks, latest, wire, -, state⟩ := conclude_eq setup n m outcome
  rw [heq]
  exact h.finish ht loading own tasks latest wire state

/-- What is logged has no part in the agreement. -/
theorem CoherentBut.record (h : CoherentBut setup n m) (events : List Event) :
    CoherentBut setup n (m.record events) where
  sent_le := h.sent_le
  task k t hk ht := h.task k t hk (by simpa using ht)
  outcome hn t ht := h.outcome hn t (by simpa using ht)

@[simp] theorem hasSent_transmit (request : Request) (k : Nat) :
    (m.transmit n request).hasSent k = (m.hasSent k || n == k) := by
  simp [hasSent, transmit]

/-- The request of the task that is left out may leave. -/
theorem CoherentBut.transmit (h : CoherentBut setup n m) {t : Task} (ht : m.task? n = some t)
    (request : Request) : CoherentBut setup n (m.transmit n request) := by
  have sent (k : Nat) (hk : k ≠ n) : (m.transmit n request).hasSent k = m.hasSent k := by
    simp [Ne.symm hk]
  refine ⟨?_, ?_, ?_⟩
  · intro s hs
    rcases List.mem_append.1 hs with old | new
    · exact h.sent_le s old
    · obtain rfl : s = Sent.mk n request := by simpa using new
      exact (task?_isSome.1 (Option.isSome_iff_exists.2 ⟨t, ht⟩)).2
  · intro k u hk hu
    rw [sent k hk]
    exact h.task k u hk (by simpa using hu)
  · intro hn u hu
    rw [latest_transmit] at hn hu ⊢
    rw [sent _ (Ne.symm hn)]
    exact h.outcome hn u (by simpa using hu)

/-! ## Jobs -/

/-- **A step keeps the agreement.** -/
theorem Coherent.step (h : Coherent setup m) (n : Nat) : Coherent setup (m.step setup n) := by
  have cases := stepped setup n m
  generalize m.step setup n = m' at cases
  cases cases with
  | idle _ => exact h
  | dropped ht hp _ =>
    have loading := h.loading ht (by simp [Task.isDone, Task.ending?, hp])
    exact (h.but n).finish ht loading (.inl ⟨none, rfl⟩) (fun _ => rfl) rfl rfl
      (by simp [shown?, describe?])
  | @unsent t failure ht hp _ hs =>
    -- the client may have been open; the failure is the same over a closed one
    have loading := h.loading ht (by simp [Task.isDone, Task.ending?, hp])
    have unsent : m.hasSent n = false := by simpa [Task.Consistent, hp] using h.task n t ht
    refine ((h.but n).record _).conclude (by simpa using ht) loading (.inr ?_)
    rw [hasSent_congr (wire_record _), unsent, Exchange.outcome?, Exchange.send_closed_of_error hs]
  | @sent t request ht hp _ hs _ =>
    have loading := h.loading ht (by simp [Task.isDone, Task.ending?, hp])
    have isOpen := Exchange.isOpen_of_send hs
    have sending := ((h.but n).record
      (Exchange.send setup.endpoint m.isOpen t.query).events).transmit (by simpa using ht) request
    refine sending.restore { t with phase := .waiting } ?_ (by simp) (by simp) ?_
      (by simp) ?_
    · intro k
      rw [task?_update]
      split
      · next same => simp [same, ht]
      · rfl
    · exact ⟨by simp, request, isOpen ▸ hs⟩
    · intro hn
      rw [state_update]
      exact loading hn
  | @answered t request reply ht hp _ hs hr =>
    have loading := h.loading ht (by simp [Task.isDone, Task.ending?, hp])
    have isOpen := Exchange.isOpen_of_send hs
    have sending := ((h.but n).record
      (Exchange.send setup.endpoint m.isOpen t.query).events).transmit (by simpa using ht) request
    refine (sending.record _).conclude (t := t) (by simpa using ht) loading (.inr ?_)
    rw [hasSent_congr (wire_record _), hasSent_transmit, beq_self_eq_true, Bool.or_true,
      Exchange.outcome?, ← isOpen, hs, hr]
    rfl
  | @stopped t ht hp _ =>
    have loading := h.loading ht (by simp [Task.isDone, Task.ending?, hp])
    exact (h.but n).conclude ht loading (.inl ⟨none, rfl⟩)
  | @resumed t reply ht hp _ hr =>
    have loading := h.loading ht (by simp [Task.isDone, Task.ending?, hp])
    obtain ⟨sent, request, hs⟩ : m.hasSent n = true ∧
        ∃ request, (Exchange.send setup.endpoint true t.query).outcome = .ok request := by
      simpa [Task.Consistent, hp] using h.task n t ht
    refine ((h.but n).record _).conclude (by simpa using ht) loading (.inr ?_)
    rw [hasSent_congr (wire_record _), sent, Exchange.outcome?, hs, hr]
    rfl

/-- **And so does the report of an end.** -/
theorem Coherent.settle (h : Coherent setup m) (n : Nat) : Coherent setup (m.settle n) := by
  have cases := settled n m
  generalize m.settle n = m' at cases
  cases cases with
  | idle _ => exact h
  | @reported t ending ht hp kept =>
    refine h.update ht (by simp [Task.Consistent, hp]) fun hn => ?_
    cases ending with
    | completed | escaped _ => simp [Task.calledFor, hp]
    | cancelled message =>
      -- the state of the latest task would have been loading until now
      have loading : m.state.outcome = .loading := by
        subst hn
        rw [h.outcome t ht, Task.calledFor, hp]
      have := kept message rfl hn
      simp [Query.State.isLoading, Query.State.status, loading, Query.Outcome.status] at this
  | @reset t message ht hp latest loading =>
    refine (h.but n).restore { t with phase := .settled (.cancelled message) } ?_
      (latest_update _) (wire_update _) ?_ (fun hn => absurd latest hn) fun _ => rfl
    · intro k
      refine (task?_congr rfl k).trans ((task?_update _).trans ?_)
      split
      · next same => rw [same, ht]; rfl
      · rfl
    · exact .inl ⟨message, rfl⟩

/-! ## Moves -/

/-- The agreement is one of tasks, requests and outcome. -/
theorem Coherent.congr {m' : Machine} (h : Coherent setup m) (tasks : m'.tasks = m.tasks)
    (wire : m'.wire = m.wire) (outcome : m'.state.outcome = m.state.outcome) :
    Coherent setup m' := by
  have latest : m'.latest = m.latest := by rw [Machine.latest, Machine.latest, tasks]
  refine ⟨?_, ?_, ?_⟩
  · rw [wire, latest]
    exact h.sent_le
  · intro k t hk
    rw [hasSent_congr wire]
    exact h.task k t (task?_congr tasks k ▸ hk)
  · intro t ht
    rw [latest] at ht ⊢
    rw [hasSent_congr wire, outcome]
    exact h.outcome t (task?_congr tasks _ ▸ ht)

/-- **A turn of the loop keeps the agreement.** -/
theorem Coherent.turn (h : Coherent setup m) : Coherent setup (m.turn setup) := by
  rw [Machine.turn]
  split
  · exact h
  · next job rest _ =>
    have popped : Coherent setup { m with queue := rest } := h.congr rfl rfl rfl
    cases job with
    | step n => exact popped.step n
    | settle n => exact popped.settle n
    | wake _ => exact popped

/-- **A submission keeps it**: the new task is the latest and the state
loads. -/
theorem Coherent.submit (h : Coherent setup m) (text : Option Text) (reply : Option Reply) :
    Coherent setup (m.submit text reply) := by
  have sent (k : Nat) : (m.submit text reply).hasSent k = m.hasSent k :=
    hasSent_congr (wire_submit text reply) k
  refine ⟨?_, ?_, ?_⟩
  · intro s hs
    rw [latest_submit]
    exact Nat.le_succ_of_le (h.sent_le s hs)
  · intro k t hk
    rw [sent]
    rw [task?_submit] at hk
    split at hk
    · next new =>
      obtain rfl := Option.some.inj hk
      exact new ▸ h.hasSent_next
    · exact h.task k t hk
  · intro t ht
    rw [latest_submit, task?_submit, if_pos rfl] at ht
    obtain rfl := Option.some.inj ht
    rfl

/-- The reply of a task has no part in the agreement until the task has
ended. -/
theorem Coherent.release (h : Coherent setup m) (n : Nat) (reply : Reply) :
    Coherent setup (m.release n reply) := by
  rw [Machine.release]
  cases ht : m.task? n with
  | none => exact h
  | some t =>
    simp only
    cases hp : t.phase with
    | unstarted | resuming =>
      exact h.update ht (by simp [Task.Consistent, hp]) (by simp [Task.calledFor, hp])
    | waiting =>
      refine Coherent.congr (h.update ht ?_ ?_) rfl rfl rfl
      · simp [Task.Consistent, hp]
      · simp [Task.calledFor, hp]
    | ended _ | settled _ => exact h

/-- Nor has a request to cancel it. -/
theorem Coherent.cancel (h : Coherent setup m) (n : Nat) : Coherent setup (m.cancel n) := by
  rw [Machine.cancel]
  cases ht : m.task? n with
  | none => exact h
  | some t =>
    simp only
    cases hp : t.phase with
    | unstarted | resuming =>
      exact h.update ht (by simp [Task.Consistent, hp]) (by simp [Task.calledFor, hp])
    | waiting =>
      refine Coherent.congr (h.update ht ?_ ?_) rfl rfl rfl
      · simp [Task.Consistent, hp]
      · simp [Task.calledFor, hp]
    | ended _ | settled _ => exact h

/-- Nor has somebody who waits for it. -/
theorem Coherent.watch (h : Coherent setup m) (n : Nat) : Coherent setup (m.watch n) := by
  cases ht : m.task? n with
  | none =>
    rw [Machine.watch, update_of_none ht]
    exact h
  | some t => exact h.update ht id fun _ => rfl

/-- **Every move keeps the agreement.** -/
theorem kept_coherent (setup : Setup) : Kept setup (Coherent setup) where
  setText _ _ h := h.congr rfl rfl rfl
  submit _ text reply h := h.submit text reply
  release _ n reply h := h.release n reply
  cancel _ n h := h.cancel n
  watch _ n h := h.watch n
  turn _ h := h.turn
  closeClient _ h := h.congr rfl rfl rfl

/-- **So it holds after every run** in which nobody edits the outcome. -/
theorem coherent_runFrom (setup : Setup) (queryText : Text) {actions : List Action}
    (ordinary : ∀ a ∈ actions, a.leavesOutcome = true) :
    Coherent setup ((new (.new queryText)).runFrom setup actions) := by
  refine (kept_coherent setup).runFrom ordinary ⟨?_, ?_, ?_⟩
  · intro s hs
    simp [new] at hs
  · intro k t hk
    cases k <;> simp [new] at hk
  · intro t ht
    simp [new, latest] at ht

end Machine

end Submission

end QueryConsole
