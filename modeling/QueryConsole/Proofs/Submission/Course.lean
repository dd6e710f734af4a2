import QueryConsole.Proofs.Submission.Moves
/-!
# The course of a task

A task goes forward by its own steps alone: it starts with one and it ends
with one, and every other move leaves it where it is (`task_of_not_stepped`).
So a run passes a moment at which a task was submitted, one at which it
started, and one at which it ended, and each of them is known by the move
that comes next: `exists_submitted`, `exists_started`, `exists_ended`. The
query of a task stays what it was when the task was submitted.
-/

namespace QueryConsole.Submission

namespace Task

/-- **A task that is left where it is**: whether it has started and how it
has ended stay as they were. -/
structure Rests (t t' : Task) : Prop where
  query : t'.query = t.query
  unstarted : t'.phase = .unstarted ↔ t.phase = .unstarted
  ending : t'.ending? = t.ending?

/-- **What a task may become**: it does not go back. -/
structure Becomes (t t' : Task) : Prop where
  query : t'.query = t.query
  started : t.phase ≠ .unstarted → t'.phase ≠ .unstarted
  ending : ∀ e, t.ending? = some e → t'.ending? = some e

variable {t t' t'' : Task}

theorem Rests.refl (t : Task) : t.Rests t := ⟨rfl, .rfl, rfl⟩

theorem Rests.becomes (h : t.Rests t') : t.Becomes t' where
  query := h.query
  started := mt h.unstarted.1
  ending _ ended := h.ending.trans ended

theorem Becomes.refl (t : Task) : t.Becomes t := (Rests.refl t).becomes

theorem Becomes.trans (h : t.Becomes t') (h' : t'.Becomes t'') : t.Becomes t'' where
  query := h'.query.trans h.query
  started unstarted := h'.started (h.started unstarted)
  ending e ended := h'.ending e (h.ending e ended)

/-- A task has ended if it has an end. -/
theorem isDone_iff : t.isDone = true ↔ ∃ e, t.ending? = some e :=
  Option.isSome_iff_exists

theorem Becomes.isDone (h : t.Becomes t') (done : t.isDone = true) : t'.isDone = true := by
  obtain ⟨e, ended⟩ := isDone_iff.1 done
  exact isDone_iff.2 ⟨e, h.ending e ended⟩

theorem Rests.isDone (h : t.Rests t') : t'.isDone = t.isDone := by
  rw [Task.isDone, Task.isDone, h.ending]

/-- The phase of a task says how it has ended. -/
theorem Rests.of_phase (query : t'.query = t.query) (phase : t'.phase = t.phase) :
    t.Rests t' :=
  ⟨query, by rw [phase], by rw [ending?, ending?, phase]⟩

end Task

namespace Machine

variable {setup : Setup} {m : Machine} {n k : Nat}

/-! ## Moves that leave tasks where they are -/

/-- **What the program around a machine may do to a task**: make a note on
it, or make it ready if it waits. -/
inductive Prodded (n : Nat) (m : Machine) : Machine → Prop
  /-- There is nothing to do. -/
  | idle : Prodded n m m
  /-- The task gets a note. -/
  | noted {t : Task} {change : Task → Task} : m.task? n = some t →
      (change t).query = t.query → (change t).phase = t.phase → Prodded n m (m.update n change)
  /-- The task no longer waits. -/
  | woken {t : Task} {change : Task → Task} : m.task? n = some t → t.phase = .waiting →
      (change t).query = t.query → (change t).phase = .resuming →
      Prodded n m ((m.update n change).enqueue (.step n))

theorem prodded_release (n : Nat) (reply : Reply) (m : Machine) :
    Prodded n m (m.release n reply) := by
  rw [release]
  cases ht : m.task? n with
  | none => exact .idle
  | some t =>
    simp only
    cases hp : t.phase with
    | unstarted | resuming => exact .noted ht rfl rfl
    | waiting => exact .woken ht hp rfl rfl
    | ended _ | settled _ => exact .idle

theorem prodded_cancel (n : Nat) (m : Machine) : Prodded n m (m.cancel n) := by
  rw [cancel]
  cases ht : m.task? n with
  | none => exact .idle
  | some t =>
    simp only
    cases hp : t.phase with
    | unstarted | resuming => exact .noted ht rfl rfl
    | waiting => exact .woken ht hp rfl rfl
    | ended _ | settled _ => exact .idle

theorem prodded_watch (n : Nat) (m : Machine) : Prodded n m (m.watch n) := by
  cases ht : m.task? n with
  | none =>
    rw [watch, update_of_none ht]
    exact .idle
  | some t => exact .noted ht rfl rfl

namespace Prodded

variable {m' : Machine}

theorem state (h : Prodded n m m') : m'.state = m.state := by
  cases h with
  | idle => rfl
  | noted _ _ _ | woken _ _ _ _ => exact state_update _

theorem latest (h : Prodded n m m') : m'.latest = m.latest := by
  cases h with
  | idle => rfl
  | noted _ _ _ | woken _ _ _ _ => exact latest_update _

theorem log (h : Prodded n m m') : m'.log = m.log := by
  cases h with
  | idle => rfl
  | noted _ _ _ | woken _ _ _ _ => exact log_update _

theorem wire (h : Prodded n m m') : m'.wire = m.wire := by
  cases h with
  | idle => rfl
  | noted _ _ _ | woken _ _ _ _ => exact wire_update _

/-- A task that is prodded stays where it is. -/
theorem rests (h : Prodded n m m') {t : Task} (ht : m.task? k = some t) :
    ∃ t', m'.task? k = some t' ∧ t.Rests t' := by
  cases h with
  | idle => exact ⟨t, ht, .refl t⟩
  | @noted u change hu query phase =>
    rw [task?_update]
    split
    · next same =>
      obtain rfl : t = u := by simpa [same, hu] using ht.symm
      exact ⟨change t, by rw [ht]; rfl, .of_phase query phase⟩
    · exact ⟨t, ht, .refl t⟩
  | @woken u change hu waiting query phase =>
    rw [task?_enqueue, task?_update]
    split
    · next same =>
      obtain rfl : t = u := by simpa [same, hu] using ht.symm
      refine ⟨change t, by rw [ht]; rfl, query, ?_, ?_⟩
      · simp [phase, waiting]
      · simp [Task.ending?, phase, waiting]
    · exact ⟨t, ht, .refl t⟩

end Prodded

/-- A submission leaves the tasks before it where they are. -/
theorem rests_submit (text : Option Text) (reply : Option Reply) {t : Task}
    (ht : m.task? k = some t) : ∃ t', (m.submit text reply).task? k = some t' ∧ t.Rests t' := by
  have issued := task?_isSome.1 (Option.isSome_iff_exists.2 ⟨t, ht⟩)
  rw [task?_submit, if_neg (by omega)]
  exact ⟨t, ht, .refl t⟩

/-- And so does the report of an end. -/
theorem rests_settle (n : Nat) {t : Task} (ht : m.task? k = some t) :
    ∃ t', (m.settle n).task? k = some t' ∧ t.Rests t' := by
  have reported {u : Task} {ending : Ending} (hu : m.task? n = some u)
      (hp : u.phase = .ended ending) :
      ∃ t', (m.update n fun t => { t with phase := .settled ending }).task? k = some t' ∧
        t.Rests t' := by
    rw [task?_update]
    split
    · next same =>
      obtain rfl : t = u := by simpa [same, hu] using ht.symm
      refine ⟨{ t with phase := .settled ending }, by rw [ht]; rfl, rfl, ?_, ?_⟩
      · simp [hp]
      · simp [Task.ending?, hp]
    · exact ⟨t, ht, .refl t⟩
  have cases := settled n m
  generalize m.settle n = m' at cases
  cases cases with
  | idle _ => exact ⟨t, ht, .refl t⟩
  | reported hu hp _ => exact reported hu hp
  | reset hu hp _ _ =>
    obtain ⟨t', ht', rests⟩ := reported hu hp
    exact ⟨t', (task?_congr rfl k).trans ht', rests⟩

/-! ## Steps -/

/-- The end of an exchange is one of its own task. -/
theorem task?_conclude (outcome : Except Failure Json) :
    (m.conclude setup n outcome).task? k =
      if k = n then (m.task? k).map fun t => { t with phase := .ended (endingOf setup outcome) }
      else m.task? k := by
  obtain ⟨m', heq, tasks, -, -, -, -⟩ := conclude_eq setup n m outcome
  rw [heq, task?_finish, tasks]

theorem task?_receive (reply : Reply) :
    (m.receive setup n reply).task? k =
      if k = n then (m.task? k).map fun t => { t with
        phase := .ended (endingOf setup (Exchange.receive setup.endpoint reply).outcome) }
      else m.task? k := by
  rw [receive, task?_conclude, task?_record]

/-- A step is one of its own task. -/
theorem task?_step_of_ne (other : k ≠ n) : (m.step setup n).task? k = m.task? k := by
  have cases := stepped setup n m
  generalize m.step setup n = m' at cases
  cases cases with
  | idle _ => rfl
  | dropped _ _ _ => rw [task?_finish, if_neg other]
  | unsent _ _ _ _ => rw [task?_conclude, if_neg other, task?_record]
  | sent _ _ _ _ _ => rw [task?_update, if_neg other, task?_transmit, task?_record]
  | answered _ _ _ _ _ => rw [task?_receive, if_neg other, task?_transmit, task?_record]
  | stopped _ _ _ => rw [task?_conclude, if_neg other]
  | resumed _ _ _ _ => rw [task?_receive, if_neg other]

/-- A task that has ended makes no step. -/
theorem step_of_isDone {t : Task} (ht : m.task? n = some t) (done : t.isDone = true) :
    m.step setup n = m := by
  rw [step, ht]
  cases hp : t.phase with
  | unstarted | waiting | resuming => simp [Task.isDone, Task.ending?, hp] at done
  | ended _ | settled _ => simp [hp]

/-- **A step takes its task forward**, unless there is nothing to do, which
is not so for a task that has not started. -/
theorem task?_step (setup : Setup) {t : Task} (ht : m.task? n = some t) :
    (t.phase ≠ .unstarted ∧ m.step setup n = m) ∨
      ∃ t', (m.step setup n).task? n = some t' ∧ t.Becomes t' ∧ t'.phase ≠ .unstarted := by
  -- a task that goes forward has not ended, so there is no end to keep
  have forward {phase : Phase} (under : t.ending? = none) (started : phase ≠ .unstarted) :
      t.Becomes { t with phase } :=
    ⟨rfl, fun _ => started, fun e ended => by simp [under] at ended⟩
  have cases := stepped setup n m
  generalize m.step setup n = m' at cases
  cases cases with
  | idle nothing => exact .inl ⟨(nothing t ht).1, rfl⟩
  | @dropped u hu hp _ =>
    obtain rfl : t = u := by simpa [hu] using ht.symm
    exact .inr ⟨_, by rw [task?_finish, if_pos rfl, ht]; rfl,
      forward (by simp [Task.ending?, hp]) (by simp), by simp⟩
  | @unsent u failure hu hp _ _ =>
    obtain rfl : t = u := by simpa [hu] using ht.symm
    exact .inr ⟨_, by rw [task?_conclude, if_pos rfl, task?_record, ht]; rfl,
      forward (by simp [Task.ending?, hp]) (by simp), by simp⟩
  | @sent u request hu hp _ _ _ =>
    obtain rfl : t = u := by simpa [hu] using ht.symm
    exact .inr ⟨_, by rw [task?_update, if_pos rfl, task?_transmit, task?_record, ht]; rfl,
      forward (by simp [Task.ending?, hp]) (by simp), by simp⟩
  | @answered u request reply hu hp _ _ _ =>
    obtain rfl : t = u := by simpa [hu] using ht.symm
    exact .inr ⟨_, by rw [task?_receive, if_pos rfl, task?_transmit, task?_record, ht]; rfl,
      forward (by simp [Task.ending?, hp]) (by simp), by simp⟩
  | @stopped u hu hp _ =>
    obtain rfl : t = u := by simpa [hu] using ht.symm
    exact .inr ⟨_, by rw [task?_conclude, if_pos rfl, ht]; rfl,
      forward (by simp [Task.ending?, hp]) (by simp), by simp⟩
  | @resumed u reply hu hp _ _ =>
    obtain rfl : t = u := by simpa [hu] using ht.symm
    exact .inr ⟨_, by rw [task?_receive, if_pos rfl, ht]; rfl,
      forward (by simp [Task.ending?, hp]) (by simp), by simp⟩

/-- After a step its task has started. -/
theorem started_by_step (setup : Setup) {t : Task} (ht : m.task? n = some t) :
    ∃ t', (m.step setup n).task? n = some t' ∧ t'.phase ≠ .unstarted := by
  rcases task?_step setup ht with ⟨started, idle⟩ | ⟨t', ht', -, started⟩
  · exact ⟨t, by rw [idle, ht], started⟩
  · exact ⟨t', ht', started⟩

/-! ## Moves -/

/-- The machine while its first job runs. -/
def popped (m : Machine) : Machine :=
  { m with queue := m.queue.tail }

/-- The next move is a step of a task. -/
def StepsNext (n : Nat) (a : Action) (m : Machine) : Prop :=
  a = .turn ∧ m.queue.head? = some (.step n)

/-- A turn runs the job that became ready first. -/
theorem turn_of_head (setup : Setup) {job : Job} (head : m.queue.head? = some job) :
    m.turn setup = m.popped.runJob setup job := by
  rw [turn, popped]
  cases hq : m.queue with
  | nil => simp [hq] at head
  | cons first rest =>
    obtain rfl : first = job := by simpa [hq] using head
    rfl

theorem turn_eq (setup : Setup) (m : Machine) :
    m.turn setup = m ∨ ∃ job, m.queue.head? = some job ∧ m.turn setup = m.popped.runJob setup job := by
  cases hq : m.queue.head? with
  | none => exact .inl (by rw [turn, List.head?_eq_none_iff.1 hq])
  | some job => exact .inr ⟨job, rfl, turn_of_head setup hq⟩

/-- A turn that steps a task is that step. -/
theorem StepsNext.perform {a : Action} (h : StepsNext n a m) :
    m.perform setup a = m.popped.step setup n := by
  obtain ⟨rfl, head⟩ := h
  exact turn_of_head setup head

@[simp] theorem task?_popped : m.popped.task? k = m.task? k := task?_congr rfl k

@[simp] theorem latest_popped : m.popped.latest = m.latest := rfl

@[simp] theorem state_popped : m.popped.state = m.state := rfl

@[simp] theorem log_popped : m.popped.log = m.log := rfl

@[simp] theorem wire_popped : m.popped.wire = m.wire := rfl

/-- **A move that is no step of a task leaves the task where it is.** -/
theorem task_of_not_stepped (setup : Setup) {a : Action} (single : a.isMove = true) (other : ¬ StepsNext n a m)
    {t : Task} (ht : m.task? n = some t) :
    ∃ t', (m.perform setup a).task? n = some t' ∧ t.Rests t' := by
  cases a with
  | edit e => exact ⟨t, (task?_congr rfl n).trans ht, .refl t⟩
  | submit text reply => exact rests_submit text reply ht
  | release k reply => exact (prodded_release k reply m).rests ht
  | cancel k => exact (prodded_cancel k m).rests ht
  | watch k => exact (prodded_watch k m).rests ht
  | turn =>
    rw [perform]
    rcases turn_eq setup m with idle | ⟨job, head, run⟩
    · exact ⟨t, by rw [idle, ht], .refl t⟩
    · rw [run]
      cases job with
      | step k =>
        have differs : n ≠ k := fun same => other ⟨rfl, same ▸ head⟩
        exact ⟨t, by rw [runJob, task?_step_of_ne differs, task?_popped, ht], .refl t⟩
      | settle k => exact rests_settle k (by rw [task?_popped, ht])
      | wake k => exact ⟨t, by rw [runJob, task?_popped, ht], .refl t⟩
  | closeClient => exact ⟨t, (task?_congr rfl n).trans ht, .refl t⟩
  | drain | run _ _ | close => simp [Action.isMove] at single

/-- **No move takes a task back.** -/
theorem task_of_perform (setup : Setup) {a : Action} (single : a.isMove = true) {t : Task}
    (ht : m.task? n = some t) :
    ∃ t', (m.perform setup a).task? n = some t' ∧ t.Becomes t' := by
  by_cases own : StepsNext n a m
  · rw [own.perform]
    rcases task?_step setup (m := m.popped) (by rw [task?_popped, ht]) with
      ⟨-, idle⟩ | ⟨t', ht', becomes, -⟩
    · exact ⟨t, by rw [idle, task?_popped, ht], .refl t⟩
    · exact ⟨t', ht', becomes⟩
  · obtain ⟨t', ht', rests⟩ := task_of_not_stepped setup single own ht
    exact ⟨t', ht', rests.becomes⟩

/-- Only a submission is counted as one. -/
theorem latest_perform (setup : Setup) (m : Machine) {a : Action} (single : a.isMove = true) :
    (∃ text reply, a = .submit text reply) ∨ (m.perform setup a).latest = m.latest := by
  cases a with
  | submit text reply => exact .inl ⟨text, reply, rfl⟩
  | edit _ | closeClient => exact .inr rfl
  | release k reply => exact .inr (latest_release reply)
  | cancel k => exact .inr (latest_cancel k)
  | watch k => exact .inr (latest_update _)
  | turn => exact .inr latest_turn
  | drain | run _ _ | close => simp [Action.isMove] at single

/-- So a task that comes into being was submitted. -/
theorem submitted_of_task {a : Action} (single : a.isMove = true) {t : Task}
    (absent : m.task? n = none) (ht : (m.perform setup a).task? n = some t) :
    ∃ text reply, a = .submit text reply ∧ n = m.latest + 1 := by
  have issued := task?_isSome.1 (Option.isSome_iff_exists.2 ⟨t, ht⟩)
  rw [task?_eq_none] at absent
  rcases latest_perform setup m single with ⟨text, reply, rfl⟩ | same
  · rw [perform, latest_submit] at issued
    exact ⟨text, reply, rfl, by omega⟩
  · omega

/-- **Nor does a run.** -/
theorem task_of_runFrom (setup : Setup) (actions : List Action) {t : Task}
    (ht : m.task? n = some t) :
    ∃ t', (m.runFrom setup actions).task? n = some t' ∧ t.Becomes t' := by
  refine runFrom_of_kept (P := fun m => ∃ t', m.task? n = some t' ∧ t.Becomes t') ?_
    ⟨t, ht, .refl t⟩ actions
  rintro m a single ⟨u, hu, becomes⟩
  obtain ⟨u', hu', becomes'⟩ := task_of_perform setup single hu
  exact ⟨u', hu', becomes.trans becomes'⟩

/-! ## Moments of a task -/

variable {start : Machine} {actions : List Action} {t : Task}

/-- From a moment on a task does not go back. -/
theorem Moment.task_of_next (h : Moment setup start actions) (ht : h.next.task? n = some t) :
    ∃ t', (start.runFrom setup actions).task? n = some t' ∧ t.Becomes t' := by
  refine h.runFrom_of_next (P := fun m => ∃ t', m.task? n = some t' ∧ t.Becomes t') ?_
    ⟨t, ht, .refl t⟩
  rintro m a single ⟨u, hu, becomes⟩
  obtain ⟨u', hu', becomes'⟩ := task_of_perform setup single hu
  exact ⟨u', hu', becomes.trans becomes'⟩

/-- **A task was submitted at a moment of the run**: it is the next then,
and its query is the text that was given, or else that of the state at that
moment. -/
theorem exists_submitted (fresh : start.latest < n)
    (ht : (start.runFrom setup actions).task? n = some t) :
    ∃ (h : Moment setup start actions) (text : Option Text) (reply : Option Reply),
      h.move = .submit text reply ∧ h.machine.latest + 1 = n ∧
      t.query = text.getD h.machine.state.queryText := by
  obtain ⟨h, before, after⟩ := exists_moment (P := fun m => (m.task? n).isSome = true)
    (by simp [task?_eq_none.2 (.inr fresh)]) (Option.isSome_iff_exists.2 ⟨t, ht⟩)
  obtain ⟨t₂, ht₂⟩ := Option.isSome_iff_exists.1 after
  have absent : h.machine.task? n = none := by simpa using before
  obtain ⟨text, reply, move, same⟩ := submitted_of_task h.isMove absent ht₂
  obtain ⟨t', ht', becomes⟩ := h.task_of_next ht₂
  obtain rfl : t = t' := by simpa [ht] using ht'
  rw [Moment.next, move, perform, task?_submit, if_pos same] at ht₂
  obtain rfl := Option.some.inj ht₂
  exact ⟨h, text, reply, move, same.symm, becomes.query⟩

/-- **What becomes true of a task becomes true by a step of its own**, if it
is not true of a new task and the rest of a task does not bring it about. -/
theorem exists_stepped {Q : Task → Prop} (new : ∀ query reply, ¬ Q (Task.new query reply))
    (rests : ∀ t t', t.Rests t' → Q t' → Q t) (fresh : start.task? n = none)
    (ht : (start.runFrom setup actions).task? n = some t) (holds : Q t) :
    ∃ (h : Moment setup start actions) (t₁ t₂ : Task), StepsNext n h.move h.machine ∧
      h.machine.task? n = some t₁ ∧ ¬ Q t₁ ∧ h.next.task? n = some t₂ ∧ Q t₂ ∧
      t₁.Becomes t₂ ∧ t₂.Becomes t := by
  obtain ⟨h, before, t₂, ht₂, holds₂⟩ := exists_moment
    (P := fun m => ∃ t, m.task? n = some t ∧ Q t) (by simp [fresh]) ⟨t, ht, holds⟩
  obtain ⟨t', ht', later⟩ := h.task_of_next ht₂
  obtain rfl : t = t' := by simpa [ht] using ht'
  cases ht₁ : h.machine.task? n with
  | none =>
    -- a task that comes into being is a new one
    rw [Moment.next] at ht₂
    obtain ⟨text, reply, move, same⟩ := submitted_of_task h.isMove ht₁ ht₂
    rw [move, perform, task?_submit, if_pos same] at ht₂
    exact absurd (Option.some.inj ht₂ ▸ holds₂) (new _ _)
  | some t₁ =>
    have not₁ : ¬ Q t₁ := fun holds₁ => before ⟨t₁, ht₁, holds₁⟩
    have own : StepsNext n h.move h.machine := by
      refine Classical.byContradiction fun other => ?_
      obtain ⟨t', ht', rest⟩ := task_of_not_stepped setup h.isMove other ht₁
      obtain rfl : t₂ = t' := by simpa [Moment.next] using ht₂.symm.trans ht'
      exact not₁ (rests _ _ rest holds₂)
    obtain ⟨t', ht', becomes⟩ := task_of_perform setup h.isMove ht₁
    obtain rfl : t₂ = t' := by simpa [Moment.next] using ht₂.symm.trans ht'
    exact ⟨h, t₁, t₂, own, ht₁, not₁, ht₂, holds₂, becomes, later⟩

/-- **A task that has started started at a moment of the run**, with a step
of its own. -/
theorem exists_started (fresh : start.task? n = none)
    (ht : (start.runFrom setup actions).task? n = some t) (started : t.phase ≠ .unstarted) :
    ∃ (h : Moment setup start actions) (t₁ t₂ : Task), StepsNext n h.move h.machine ∧
      h.machine.task? n = some t₁ ∧ t₁.phase = .unstarted ∧ h.next.task? n = some t₂ ∧
      t₂.phase ≠ .unstarted ∧ t₁.Becomes t₂ ∧ t₂.Becomes t := by
  obtain ⟨h, t₁, t₂, own, ht₁, unstarted, rest⟩ :=
    exists_stepped (Q := fun t => t.phase ≠ .unstarted) (by simp [Task.new])
      (fun _ _ rests => mt rests.unstarted.2) fresh ht started
  exact ⟨h, t₁, t₂, own, ht₁, Classical.not_not.1 unstarted, rest⟩

/-- **A task that has ended ended at a moment of the run**, with a step of
its own. -/
theorem exists_ended (fresh : start.task? n = none)
    (ht : (start.runFrom setup actions).task? n = some t) (done : t.isDone = true) :
    ∃ (h : Moment setup start actions) (t₁ t₂ : Task), StepsNext n h.move h.machine ∧
      h.machine.task? n = some t₁ ∧ t₁.isDone = false ∧ h.next.task? n = some t₂ ∧
      t₂.isDone = true ∧ t₁.Becomes t₂ ∧ t₂.Becomes t := by
  obtain ⟨h, t₁, t₂, own, ht₁, under, rest⟩ :=
    exists_stepped (Q := fun t => t.isDone = true) (by simp [Task.new, Task.isDone, Task.ending?])
      (fun _ _ rests done => rests.isDone ▸ done) fresh ht done
  exact ⟨h, t₁, t₂, own, ht₁, by simpa using under, rest⟩

end Machine

end QueryConsole.Submission
