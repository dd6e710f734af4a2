import QueryConsole.Submission.Run
/-!
# What a job does

The equations of the machine's own operations, and what a job can come to.
An operation on a submission changes one task, so each of them is known by
its effect on `task?`; the rest of the machine stays, or is given by an
equation of its own. `conclude_eq` says how a task ends, and `stepped`
lists everything that a step of a task can do, with its conditions. What
is proved of machines afterwards is read off these two.
-/

namespace QueryConsole.Submission

/-- The text that a failure is shown with; a cancellation is not shown. -/
def describe? (setup : Setup) : Failure → Option (Except Catalog.Fault Text)
  | .refused refusal => some (describeRefusal setup refusal)
  | .crashed crash => some (describeCrash setup crash)
  | .cancelled _ => none

/-- The kind under which a failure is shown. -/
def shownKind : Failure → ErrorKind
  | .refused refusal => refusal.kind
  | _ => .transport

/-- What is shown of an exchange that is over; nothing of one that was
cancelled, or whose failure has no description. -/
def shown? (setup : Setup) : Except Failure Json → Option Query.Outcome
  | .ok result => some (.success result)
  | .error failure =>
    match describe? setup failure with
    | some (.ok message) => some (.error (shownKind failure) message)
    | _ => none

/-- How a task ends whose exchange is over. -/
def endingOf (setup : Setup) : Except Failure Json → Ending
  | .ok _ => .completed
  | .error (.cancelled message) => .cancelled message
  | .error failure =>
    match describe? setup failure with
    | some (.error fault) => .escaped fault
    | _ => .completed

/-- A task ends by itself when its exchange has something to show. -/
theorem endingOf_eq_completed {setup : Setup} {outcome : Except Failure Json} :
    endingOf setup outcome = .completed ↔ (∃ result, outcome = .ok result) ∨
      ∃ failure message, outcome = .error failure ∧
        describe? setup failure = some (.ok message) := by
  match outcome with
  | .ok result => simp [endingOf]
  | .error (.cancelled message) => simp [endingOf, describe?]
  | .error (.refused refusal) =>
    cases h : describeRefusal setup refusal <;> simp [endingOf, describe?, h]
  | .error (.crashed crash) =>
    cases h : describeCrash setup crash <;> simp [endingOf, describe?, h]

/-- A fault escapes from it exactly when it arises in the description of its
failure. -/
theorem endingOf_eq_escaped {setup : Setup} {outcome : Except Failure Json}
    {fault : Catalog.Fault} :
    endingOf setup outcome = .escaped fault ↔
      ∃ failure, outcome = .error failure ∧ describe? setup failure = some (.error fault) := by
  match outcome with
  | .ok result => simp [endingOf]
  | .error (.cancelled message) => simp [endingOf, describe?]
  | .error (.refused refusal) =>
    cases h : describeRefusal setup refusal <;> simp [endingOf, describe?, h]
  | .error (.crashed crash) =>
    cases h : describeCrash setup crash <;> simp [endingOf, describe?, h]

/-- And the task ends cancelled exactly when its exchange was cancelled. -/
theorem endingOf_eq_cancelled {setup : Setup} {outcome : Except Failure Json}
    {message : Option Text} :
    endingOf setup outcome = .cancelled message ↔ outcome = .error (.cancelled message) := by
  match outcome with
  | .ok result => simp [endingOf]
  | .error (.cancelled message) => simp [endingOf]
  | .error (.refused refusal) =>
    cases h : describeRefusal setup refusal <;> simp [endingOf, describe?, h]
  | .error (.crashed crash) =>
    cases h : describeCrash setup crash <;> simp [endingOf, describe?, h]

/-- The submission that a job is about. -/
def Job.sequence : Job → Nat
  | step n => n
  | settle n => n
  | wake n => n

namespace Machine

variable {setup : Setup} {m : Machine} {n k : Nat}

/-- Whether a submission has sent its request. -/
def hasSent (n : Nat) (m : Machine) : Bool :=
  m.wire.any fun s => s.sequence == n

/-! ## Single operations -/

@[simp] theorem task?_succ (i : Nat) : m.task? (i + 1) = m.tasks[i]? := rfl

@[simp] theorem task?_zero : m.task? 0 = none := rfl

theorem task?_isSome : (m.task? n).isSome ↔ 0 < n ∧ n ≤ m.latest := by
  cases n with
  | zero => simp
  | succ i =>
    simp only [task?_succ, isSome_getElem?, latest]
    omega

theorem task?_eq_none : m.task? n = none ↔ n = 0 ∨ m.latest < n := by
  rw [← Option.not_isSome_iff_eq_none, task?_isSome]
  omega

/-- What is asked of a task depends on the tasks alone. -/
theorem task?_congr {m' : Machine} (h : m'.tasks = m.tasks) (k : Nat) :
    m'.task? k = m.task? k := by
  cases k with
  | zero => rfl
  | succ i => rw [task?_succ, task?_succ, h]

/-- **A change of one task is a change of that task only.** -/
@[simp] theorem task?_update (change : Task → Task) :
    (m.update n change).task? k = if k = n then (m.task? k).map change else m.task? k := by
  cases n with
  | zero => cases k <;> simp [update]
  | succ i =>
    cases k with
    | zero => simp
    | succ j =>
      simp only [update, task?_succ, List.getElem?_modify, Nat.add_right_cancel_iff]
      by_cases h : j = i
      · subst h; simp
      · simp [h, Ne.symm h]

/-- Nothing is changed where there is no task. -/
theorem update_of_none {change : Task → Task} (h : m.task? n = none) : m.update n change = m := by
  cases n with
  | zero => rfl
  | succ i =>
    have outside : m.tasks.length ≤ i := List.getElem?_eq_none_iff.1 h
    rw [update, List.modify_eq_self outside]

@[simp] theorem latest_update (change : Task → Task) : (m.update n change).latest = m.latest := by
  cases n <;> simp [update, latest]

@[simp] theorem state_update (change : Task → Task) : (m.update n change).state = m.state := by
  cases n <;> rfl

@[simp] theorem wire_update (change : Task → Task) : (m.update n change).wire = m.wire := by
  cases n <;> rfl

@[simp] theorem log_update (change : Task → Task) : (m.update n change).log = m.log := by
  cases n <;> rfl

@[simp] theorem queue_update (change : Task → Task) : (m.update n change).queue = m.queue := by
  cases n <;> rfl

@[simp] theorem task?_enqueue (job : Job) : (m.enqueue job).task? k = m.task? k := by
  cases k <;> rfl

@[simp] theorem latest_enqueue (job : Job) : (m.enqueue job).latest = m.latest := rfl

@[simp] theorem state_enqueue (job : Job) : (m.enqueue job).state = m.state := rfl

@[simp] theorem wire_enqueue (job : Job) : (m.enqueue job).wire = m.wire := rfl

@[simp] theorem log_enqueue (job : Job) : (m.enqueue job).log = m.log := rfl

@[simp] theorem task?_record (events : List Event) : (m.record events).task? k = m.task? k := by
  cases k <;> rfl

@[simp] theorem latest_record (events : List Event) : (m.record events).latest = m.latest := rfl

@[simp] theorem state_record (events : List Event) : (m.record events).state = m.state := rfl

@[simp] theorem wire_record (events : List Event) : (m.record events).wire = m.wire := rfl

@[simp] theorem log_record (events : List Event) : (m.record events).log = m.log ++ events := rfl

@[simp] theorem queue_record (events : List Event) : (m.record events).queue = m.queue := rfl

@[simp] theorem task?_transmit (request : Request) :
    (m.transmit n request).task? k = m.task? k := by
  cases k <;> rfl

@[simp] theorem latest_transmit (request : Request) :
    (m.transmit n request).latest = m.latest := rfl

@[simp] theorem state_transmit (request : Request) :
    (m.transmit n request).state = m.state := rfl

@[simp] theorem wire_transmit (request : Request) :
    (m.transmit n request).wire = m.wire ++ [Sent.mk n request] := rfl

@[simp] theorem log_transmit (request : Request) : (m.transmit n request).log = m.log := rfl

/-- **A task that ends** changes its phase. -/
@[simp] theorem task?_finish (ending : Ending) :
    (m.finish n ending).task? k =
      if k = n then (m.task? k).map fun t => { t with phase := .ended ending }
      else m.task? k := by
  rw [finish]
  split <;> simp

@[simp] theorem latest_finish (ending : Ending) : (m.finish n ending).latest = m.latest := by
  rw [finish]
  split <;> simp

@[simp] theorem state_finish (ending : Ending) : (m.finish n ending).state = m.state := by
  rw [finish]
  split <;> simp

@[simp] theorem wire_finish (ending : Ending) : (m.finish n ending).wire = m.wire := by
  rw [finish]
  split <;> simp

@[simp] theorem log_finish (ending : Ending) : (m.finish n ending).log = m.log := by
  rw [finish]
  split <;> simp

/-- **What becomes ready when a task ends**: the report of its end, and
whoever waits for it. -/
theorem queue_finish (ending : Ending) : (m.finish n ending).queue =
    m.queue ++ .settle n :: if (m.task? n).any Task.awaited then [.wake n] else [] := by
  rw [finish]
  split <;> simp [enqueue, *]

theorem tasks_submit (text : Option Text) (reply : Option Reply) :
    (m.submit text reply).tasks =
      m.tasks ++ [Task.new (text.getD m.state.queryText) reply] := rfl

/-- **A submission adds a task**, the latest from then on. -/
@[simp] theorem task?_submit (text : Option Text) (reply : Option Reply) :
    (m.submit text reply).task? k =
      if k = m.latest + 1 then some (Task.new (text.getD m.state.queryText) reply)
      else m.task? k := by
  cases k with
  | zero => simp
  | succ i =>
    rw [task?_succ, task?_succ, tasks_submit, latest]
    by_cases h : i = m.tasks.length
    · simp [h]
    · rw [if_neg (by omega)]
      rcases Nat.lt_or_ge i m.tasks.length with inside | outside
      · exact List.getElem?_append_left inside
      · rw [List.getElem?_eq_none outside, List.getElem?_eq_none]
        simp only [List.length_append, List.length_singleton]
        omega

@[simp] theorem latest_submit (text : Option Text) (reply : Option Reply) :
    (m.submit text reply).latest = m.latest + 1 := by
  rw [latest, tasks_submit, List.length_append, List.length_singleton, latest]

@[simp] theorem state_submit (text : Option Text) (reply : Option Reply) :
    (m.submit text reply).state = m.state.begin := rfl

@[simp] theorem wire_submit (text : Option Text) (reply : Option Reply) :
    (m.submit text reply).wire = m.wire := rfl

@[simp] theorem log_submit (text : Option Text) (reply : Option Reply) :
    (m.submit text reply).log =
      m.log ++ [.started (m.latest + 1) (text.getD m.state.queryText).length] := rfl

@[simp] theorem latest_release (reply : Reply) : (m.release n reply).latest = m.latest := by
  rw [release]
  split
  · rfl
  · split <;> simp

@[simp] theorem state_release (reply : Reply) : (m.release n reply).state = m.state := by
  rw [release]
  split
  · rfl
  · split <;> simp

@[simp] theorem latest_cancel (n : Nat) : (m.cancel n).latest = m.latest := by
  rw [cancel]
  split
  · rfl
  · split <;> simp

/-- A request to cancel a task leaves the state to the task. -/
@[simp] theorem state_cancel (n : Nat) : (m.cancel n).state = m.state := by
  rw [cancel]
  split
  · rfl
  · split <;> simp

/-! ## The end of an exchange -/

/-- Whether an outcome is applied or dropped, the tasks stay as they are. -/
@[simp] theorem task?_apply (change : Query.State → Query.State) :
    (m.apply n change).task? k = m.task? k := by
  rw [apply]
  split
  · cases k <;> rfl
  · simp

@[simp] theorem latest_apply (change : Query.State → Query.State) :
    (m.apply n change).latest = m.latest := by
  rw [apply]
  split <;> rfl

@[simp] theorem wire_apply (change : Query.State → Query.State) :
    (m.apply n change).wire = m.wire := by
  rw [apply]
  split <;> rfl

@[simp] theorem queue_apply (change : Query.State → Query.State) :
    (m.apply n change).queue = m.queue := by
  rw [apply]
  split <;> rfl

/-- **Only the latest submission changes the state.** -/
theorem state_apply (change : Query.State → Query.State) :
    (m.apply n change).state = if n = m.latest then change m.state else m.state := by
  rw [apply]
  split <;> rfl

/-- **A task whose exchange is over ends**: some events are logged, the
state is changed if the submission is the latest and there is something to
show, and the task ends the way the exchange did. -/
theorem conclude_eq (setup : Setup) (n : Nat) (m : Machine) (outcome : Except Failure Json) :
    ∃ m' : Machine, m.conclude setup n outcome = m'.finish n (endingOf setup outcome) ∧
      (∀ k, m'.task? k = m.task? k) ∧ m'.latest = m.latest ∧ m'.wire = m.wire ∧
      m'.queue = m.queue ∧ m'.state = if n = m.latest then
        { m.state with outcome := (shown? setup outcome).getD m.state.outcome } else m.state := by
  match outcome with
  | .ok result =>
    refine ⟨(m.record [.succeeded n]).apply n (.succeed result), rfl, by simp, by simp, by simp,
      by simp, ?_⟩
    rw [state_apply]
    rfl
  | .error (.cancelled message) =>
    refine ⟨m.record [.cancelled n], rfl, by simp, by simp, by simp, by simp, ?_⟩
    simp [shown?, describe?]
  | .error (.refused refusal) =>
    cases h : describeRefusal setup refusal with
    | ok message =>
      refine ⟨(m.record [.failed n refusal]).apply n (.fail refusal.kind message), ?_,
        by simp, by simp, by simp, by simp, ?_⟩
      · simp [conclude, endingOf, describe?, h]
      · rw [state_apply]
        simp only [shown?, describe?, h]
        rfl
    | error fault =>
      refine ⟨m, ?_, by simp, rfl, rfl, rfl, ?_⟩
      · simp [conclude, endingOf, describe?, h]
      · simp [shown?, describe?, h]
  | .error (.crashed crash) =>
    cases h : describeCrash setup crash with
    | ok message =>
      refine ⟨(m.record [.crashed n crash]).apply n (.fail .transport message), ?_,
        by simp, by simp, by simp, by simp, ?_⟩
      · simp [conclude, endingOf, describe?, h]
      · rw [state_apply]
        simp only [shown?, describe?, h]
        rfl
    | error fault =>
      refine ⟨m.record [.crashed n crash], ?_, by simp, by simp, by simp, by simp, ?_⟩
      · simp [conclude, endingOf, describe?, h]
      · simp [shown?, describe?, h]

/-! ## The jobs -/

/-- **What a step of a task can do.** -/
inductive Stepped (setup : Setup) (n : Nat) (m : Machine) : Machine → Prop
  /-- There is nothing to do. -/
  | idle : (∀ t, m.task? n = some t → t.phase ≠ .unstarted ∧
      (t.phase = .resuming → t.cancelRequested = false ∧ t.reply = none)) → Stepped setup n m m
  /-- The task was cancelled before it started. -/
  | dropped {t : Task} : m.task? n = some t → t.phase = .unstarted → t.cancelRequested = true →
      Stepped setup n m (m.finish n (.cancelled none))
  /-- The task starts and its request does not leave. -/
  | unsent {t : Task} {failure : Failure} : m.task? n = some t → t.phase = .unstarted →
      t.cancelRequested = false →
      (Exchange.send setup.endpoint m.isOpen t.query).outcome = .error failure →
      Stepped setup n m
        ((m.record (Exchange.send setup.endpoint m.isOpen t.query).events).conclude setup n
          (.error failure))
  /-- The task starts and waits for its reply. -/
  | sent {t : Task} {request : Request} : m.task? n = some t → t.phase = .unstarted →
      t.cancelRequested = false →
      (Exchange.send setup.endpoint m.isOpen t.query).outcome = .ok request → t.reply = none →
      Stepped setup n m
        (((m.record (Exchange.send setup.endpoint m.isOpen t.query).events).transmit n
          request).update n fun t => { t with phase := .waiting })
  /-- The task starts and its reply is there. -/
  | answered {t : Task} {request : Request} {reply : Reply} : m.task? n = some t →
      t.phase = .unstarted → t.cancelRequested = false →
      (Exchange.send setup.endpoint m.isOpen t.query).outcome = .ok request →
      t.reply = some reply →
      Stepped setup n m
        (((m.record (Exchange.send setup.endpoint m.isOpen t.query).events).transmit n
          request).receive setup n reply)
  /-- The task was cancelled while it waited. -/
  | stopped {t : Task} : m.task? n = some t → t.phase = .resuming → t.cancelRequested = true →
      Stepped setup n m (m.conclude setup n (.error (.cancelled none)))
  /-- The task goes on with its reply. -/
  | resumed {t : Task} {reply : Reply} : m.task? n = some t → t.phase = .resuming →
      t.cancelRequested = false → t.reply = some reply →
      Stepped setup n m (m.receive setup n reply)

theorem stepped (setup : Setup) (n : Nat) (m : Machine) : Stepped setup n m (m.step setup n) := by
  rw [step]
  cases ht : m.task? n with
  | none => exact .idle fun t h => by simp [ht] at h
  | some t =>
    simp only
    cases hp : t.phase with
    | unstarted =>
      simp only
      by_cases hc : t.cancelRequested = true
      · rw [if_pos hc]
        exact .dropped ht hp hc
      · rw [if_neg hc, start]
        have hc' : t.cancelRequested = false := by simpa using hc
        simp only
        cases hs : (Exchange.send setup.endpoint m.isOpen t.query).outcome with
        | error failure => exact .unsent ht hp hc' hs
        | ok request =>
          cases hr : t.reply with
          | none => exact .sent ht hp hc' hs hr
          | some reply => exact .answered ht hp hc' hs hr
    | resuming =>
      simp only
      by_cases hc : t.cancelRequested = true
      · rw [if_pos hc]
        exact .stopped ht hp hc
      · rw [if_neg hc]
        have hc' : t.cancelRequested = false := by simpa using hc
        cases hr : t.reply with
        | none =>
          refine .idle fun u hu => ?_
          obtain rfl : t = u := by simpa [ht] using hu
          simp [hp, hc', hr]
        | some reply => exact .resumed ht hp hc' hr
    | waiting | ended _ | settled _ =>
      refine .idle fun u hu => ?_
      obtain rfl : t = u := by simpa [ht] using hu
      simp [hp]

/-- **What the report of an end can do.** -/
inductive Settled (n : Nat) (m : Machine) : Machine → Prop
  /-- There is no end to report. -/
  | idle : (∀ t, m.task? n = some t → ∀ ending, t.phase ≠ .ended ending) → Settled n m m
  /-- The end is reported and the state stays. -/
  | reported {t : Task} {ending : Ending} : m.task? n = some t → t.phase = .ended ending →
      (∀ message, ending = .cancelled message → n = m.latest → m.state.isLoading = false) →
      Settled n m (m.update n fun t => { t with phase := .settled ending })
  /-- The latest submission was cancelled, and the state no longer waits
  for it. -/
  | reset {t : Task} {message : Option Text} : m.task? n = some t →
      t.phase = .ended (.cancelled message) → n = m.latest → m.state.isLoading = true →
      Settled n m
        { m.update n fun t => { t with phase := .settled (.cancelled message) } with
          state := m.state.reset }

theorem settled (n : Nat) (m : Machine) : Settled n m (m.settle n) := by
  rw [settle]
  cases ht : m.task? n with
  | none => exact .idle fun t h => by simp [ht] at h
  | some t =>
    simp only
    cases hp : t.phase with
    | ended ending =>
      cases ending with
      | cancelled message =>
        simp only [latest_update, state_update]
        by_cases h : n = m.latest ∧ m.state.isLoading = true
        · rw [if_pos h]
          exact .reset ht hp h.1 h.2
        · rw [if_neg h]
          exact .reported ht hp fun _ _ hl => by simpa using fun hi => h ⟨hl, hi⟩
      | completed => exact .reported ht hp fun _ h => by simp at h
      | escaped fault => exact .reported ht hp fun _ h => by simp at h
    | unstarted | waiting | resuming | settled _ =>
      refine .idle fun u hu => ?_
      obtain rfl : t = u := by simpa [ht] using hu
      simp [hp]

/-- Whatever the report of an end changes, it is a task or the state. -/
theorem settle_eq (n : Nat) (m : Machine) :
    ∃ tasks state, m.settle n = { m with tasks := tasks, state := state } := by
  have updated (change : Task → Task) :
      m.update n change = { m with tasks := (m.update n change).tasks } := by
    cases n <;> rfl
  have cases := settled n m
  generalize m.settle n = m' at cases
  cases cases with
  | idle _ => exact ⟨m.tasks, m.state, rfl⟩
  | reported _ _ _ => exact ⟨_, m.state, updated _⟩
  | reset _ _ _ _ => exact ⟨_, m.state.reset, by rw [updated]⟩

@[simp] theorem log_settle : (m.settle n).log = m.log := by
  obtain ⟨tasks, state, heq⟩ := settle_eq n m
  rw [heq]

@[simp] theorem wire_settle : (m.settle n).wire = m.wire := by
  obtain ⟨tasks, state, heq⟩ := settle_eq n m
  rw [heq]

/-- No job becomes ready with the report of an end. -/
@[simp] theorem queue_settle : (m.settle n).queue = m.queue := by
  obtain ⟨tasks, state, heq⟩ := settle_eq n m
  rw [heq]

@[simp] theorem latest_step : (m.step setup n).latest = m.latest := by
  have concluded (outcome : Except Failure Json) (m : Machine) :
      (m.conclude setup n outcome).latest = m.latest := by
    obtain ⟨m', heq, -, latest, -, -, -⟩ := conclude_eq setup n m outcome
    rw [heq, latest_finish, latest]
  have cases := stepped setup n m
  generalize m.step setup n = m' at cases
  cases cases with
  | idle _ => rfl
  | dropped _ _ _ => exact latest_finish _
  | unsent _ _ _ _ => exact (concluded _ _).trans rfl
  | sent _ _ _ _ _ => exact latest_update _
  | answered _ _ _ _ _ => exact (concluded _ _).trans rfl
  | stopped _ _ _ => exact concluded _ _
  | resumed _ _ _ _ => exact (concluded _ _).trans rfl

@[simp] theorem latest_settle : (m.settle n).latest = m.latest := by
  have cases := settled n m
  generalize m.settle n = m' at cases
  cases cases with
  | idle _ => rfl
  | reported _ _ _ => exact latest_update _
  | reset _ _ _ _ => exact latest_update _

/-- **No turn of the loop issues a submission.** -/
@[simp] theorem latest_turn : (m.turn setup).latest = m.latest := by
  rw [turn]
  split
  · rfl
  · next job rest _ =>
    cases job with
    | step n => exact latest_step.trans rfl
    | settle n => exact latest_settle.trans rfl
    | wake n => rfl

/-- A job of no submission does nothing. -/
theorem runJob_of_none {job : Job} (h : m.task? job.sequence = none) :
    m.runJob setup job = m := by
  cases job with
  | step n =>
    rw [Job.sequence] at h
    rw [runJob, step, h]
  | settle n =>
    rw [Job.sequence] at h
    rw [runJob, settle, h]
  | wake n => rfl

end Machine

end QueryConsole.Submission
