import Mathlib.Algebra.GroupWithZero.Nat
import QueryConsole.Proofs.Submission.Course
/-!
# What is ready for a task

The jobs that are ready for one submission are few, and the phase of its
task tells them: a step before it starts or goes on, nothing while it waits,
the report of its end when it has ended, and whoever waits for it after
that. `Task.Passes` lists what a move can do to one task and its jobs
(`passes_of_perform`), and none of it leaves jobs that the phase does not
tell (`Scheduled.perform`). So whoever waits for a task goes on after its
end was reported (`Scheduled.settled_of_wake`), and where nothing is ready,
as after `drain` (`queue_drain`), a task waits for its reply or its end has
been reported.
-/

namespace QueryConsole.Submission

namespace Task

/-- What has been asked of a task is not taken back. -/
structure Marked (t t' : Task) : Prop where
  cancelRequested : t.cancelRequested = true → t'.cancelRequested = true
  awaited : t.awaited = true → t'.awaited = true

/-- A task that stays in its phase; one that waits does so without a reply. -/
structure Stays (t t' : Task) : Prop where
  phase : t'.phase = t.phase
  marked : t.Marked t'
  reply : t.reply.isSome = true → t'.reply.isSome = true
  waiting : t.phase = .waiting → t'.reply = t.reply

theorem Marked.refl (t : Task) : t.Marked t := ⟨id, id⟩

theorem Stays.refl (t : Task) : t.Stays t := ⟨rfl, .refl t, id, fun _ => rfl⟩

/-- The jobs that come of the end of a task. -/
def closingJobs (n : Nat) (t : Task) : List Job :=
  .settle n :: if t.awaited then [.wake n] else []

/-- **What a move can do to a task and its jobs**, of which the first may be
the one that runs. -/
inductive Passes (n : Nat) (t : Task) (jobs : List Job) : Option Job → Task → List Job → Prop
  /-- No job of the task runs, and it stays in its phase. -/
  | stays {t' : Task} : t.Stays t' → Passes n t jobs none t' jobs
  /-- The task waits and is made ready. -/
  | readied {t' : Task} : t.phase = .waiting → t'.phase = .resuming → t.Marked t' →
      t'.cancelRequested = true ∨ t'.reply.isSome = true →
      Passes n t jobs none t' (jobs ++ [.step n])
  /-- Its step has nothing to do. -/
  | idle {rest : List Job} : jobs = .step n :: rest → t.phase ≠ .unstarted →
      (t.phase = .resuming → t.cancelRequested = false ∧ t.reply = none) →
      Passes n t jobs (some (.step n)) t rest
  /-- It starts and waits for its reply. -/
  | started {rest : List Job} : jobs = .step n :: rest → t.phase = .unstarted →
      t.cancelRequested = false → t.reply = none →
      Passes n t jobs (some (.step n)) { t with phase := .waiting } rest
  /-- It ends, and as cancelled if that was asked of it. -/
  | ended {rest : List Job} {ending : Ending} : jobs = .step n :: rest →
      t.phase = .unstarted ∨ t.phase = .resuming →
      (t.cancelRequested = true → ending = .cancelled none) →
      Passes n t jobs (some (.step n)) { t with phase := .ended ending }
        (rest ++ t.closingJobs n)
  /-- There is no end to report. -/
  | unreported {rest : List Job} : jobs = .settle n :: rest →
      (∀ ending, t.phase ≠ .ended ending) → Passes n t jobs (some (.settle n)) t rest
  /-- Its end is reported. -/
  | reported {rest : List Job} {ending : Ending} : jobs = .settle n :: rest →
      t.phase = .ended ending →
      Passes n t jobs (some (.settle n)) { t with phase := .settled ending } rest
  /-- Whoever waits for it goes on. -/
  | woken {rest : List Job} : jobs = .wake n :: rest → Passes n t jobs (some (.wake n)) t rest

/-- **The jobs of a task as its phase tells them.** -/
def Ready (n : Nat) (t : Task) (jobs : List Job) : Prop :=
  match t.phase with
  | .unstarted => jobs = [.step n]
  | .waiting => jobs = [] ∧ t.reply = none
  | .resuming => jobs = [.step n] ∧ (t.cancelRequested = true ∨ t.reply.isSome = true)
  | .ended _ => jobs = [.settle n] ∨ jobs = [.settle n, .wake n]
  | .settled _ => jobs = [] ∨ jobs = [.wake n]

variable {n : Nat} {t t' : Task} {jobs jobs' : List Job} {ran : Option Job}

/-- A step of a task that is ready has something to do. -/
theorem Ready.not_idle {rest : List Job} (h : t.Ready n jobs) (own : jobs = .step n :: rest)
    (started : t.phase ≠ .unstarted)
    (nothing : t.phase = .resuming → t.cancelRequested = false ∧ t.reply = none) : False := by
  subst own
  rw [Ready] at h
  cases hp : t.phase with
  | unstarted => exact started hp
  | resuming =>
    obtain ⟨kept, none⟩ := nothing hp
    simp [hp, kept, none] at h
  | waiting | ended _ | settled _ => simp [hp] at h

/-- **No move leaves jobs that the phase does not tell.** -/
theorem Ready.passes (h : t.Ready n jobs) (passes : t.Passes n jobs ran t' jobs') :
    t'.Ready n jobs' := by
  cases passes with
  | stays stays =>
    rw [Ready] at h ⊢
    rw [stays.phase]
    cases hp : t.phase with
    | unstarted | ended _ | settled _ => simpa [hp] using h
    | waiting => simpa [hp, stays.waiting hp] using h
    | resuming =>
      simp only [hp] at h
      exact ⟨h.1, h.2.imp stays.marked.cancelRequested stays.reply⟩
  | readied waiting resuming _ asked =>
    simp only [Ready, waiting] at h
    simp [Ready, resuming, h.1, asked]
  | idle own started nothing => exact (h.not_idle own started nothing).elim
  | started own unstarted _ none =>
    subst own
    simp only [Ready, unstarted, List.cons.injEq, true_and] at h
    exact ⟨h, none⟩
  | @ended rest ending own phase _ =>
    subst own
    -- the step was all that was ready, so what is ready now comes of the end
    obtain rfl : rest = [] := by
      rcases phase with hp | hp
      · simpa [Ready, hp] using h
      · exact (by simpa [Ready, hp] using h : rest = [] ∧ _).1
    cases awaited : t.awaited <;> simp [Ready, closingJobs, awaited]
  | unreported own other =>
    subst own
    rw [Ready] at h
    cases hp : t.phase with
    | ended ending => exact absurd hp (other ending)
    | unstarted | waiting | resuming | settled _ => simp [hp] at h
  | reported own ended =>
    subst own
    simpa [Ready, ended] using h
  | woken own =>
    subst own
    rw [Ready] at h ⊢
    cases hp : t.phase with
    | settled ending => exact .inl (by simpa [hp] using h)
    | unstarted | waiting | resuming | ended _ => simp [hp] at h

end Task

namespace Machine

variable {setup : Setup} {m m' : Machine} {n k : Nat} {a : Action} {t : Task} {job : Job}

/-! ## The jobs of a task -/

/-- The jobs that are ready for a submission, in the order in which they
run. -/
def jobsOf (n : Nat) (m : Machine) : List Job :=
  m.queue.filter fun job => job.sequence == n

/-- The next move runs a job. -/
def RunsNext (job : Job) (a : Action) (m : Machine) : Prop :=
  a = .turn ∧ m.queue.head? = some job

/-- The job of a submission that a move runs, if it runs one. -/
def ranFor (n : Nat) (m : Machine) : Action → Option Job
  | .turn => m.queue.head?.filter fun job => job.sequence == n
  | _ => none

theorem ranFor_eq_some_iff : m.ranFor n a = some job ↔ RunsNext job a m ∧ job.sequence = n := by
  cases a <;> simp [ranFor, RunsNext, Option.filter_eq_some_iff]

theorem queue_submit (text : Option Text) (reply : Option Reply) :
    (m.submit text reply).queue = m.queue ++ [.step (m.latest + 1)] := rfl

theorem jobsOf_congr (queue : m'.queue = m.queue) (k : Nat) : m'.jobsOf k = m.jobsOf k := by
  rw [jobsOf, queue, jobsOf]

theorem jobsOf_append {jobs : List Job} (queue : m'.queue = m.queue ++ jobs) (k : Nat) :
    m'.jobsOf k = m.jobsOf k ++ jobs.filter fun job => job.sequence == k := by
  rw [jobsOf, queue, List.filter_append, jobsOf]

/-- What is made ready for one submission is its own. -/
theorem jobsOf_append_own {jobs : List Job} (queue : m'.queue = m.queue ++ jobs)
    (own : ∀ job ∈ jobs, job.sequence = n) : m'.jobsOf n = m.jobsOf n ++ jobs := by
  have kept : jobs.filter (fun job => job.sequence == n) = jobs :=
    List.filter_eq_self.2 fun job mem => by simp [own job mem]
  rw [jobsOf_append queue, kept]

theorem jobsOf_append_other {jobs : List Job} (queue : m'.queue = m.queue ++ jobs)
    (own : ∀ job ∈ jobs, job.sequence = n) (other : k ≠ n) : m'.jobsOf k = m.jobsOf k := by
  have dropped : jobs.filter (fun job => job.sequence == k) = [] :=
    List.filter_eq_nil_iff.2 fun job mem => by simpa [own job mem] using other.symm
  rw [jobsOf_append queue, dropped, List.append_nil]

theorem queue_of_head (head : m.queue.head? = some job) : m.queue = job :: m.popped.queue := by
  obtain ⟨rest, queue⟩ := List.head?_eq_some_iff.1 head
  rw [popped, queue, List.tail_cons]

/-- The job that runs is the first of its own submission. -/
theorem jobsOf_of_head (head : m.queue.head? = some job) (k : Nat) :
    m.jobsOf k = if job.sequence = k then job :: m.popped.jobsOf k else m.popped.jobsOf k := by
  rw [jobsOf, queue_of_head head, List.filter_cons, ← jobsOf]
  simp only [beq_iff_eq]

theorem sequence_of_mem_closingJobs : ∀ job ∈ t.closingJobs n, job.sequence = n := by
  intro job mem
  rw [Task.closingJobs] at mem
  rcases List.mem_cons.1 mem with rfl | mem
  · rfl
  · split at mem
    · rw [List.mem_singleton.1 mem]
      rfl
    · simp at mem

/-! ## Steps and reports -/

/-- **What a step does to its task and to the queue.** -/
inductive Advanced (n : Nat) (t : Task) (m m' : Machine) : Prop
  /-- There is nothing to do. -/
  | idle : t.phase ≠ .unstarted →
      (t.phase = .resuming → t.cancelRequested = false ∧ t.reply = none) → m' = m →
      Advanced n t m m'
  /-- The task starts and waits. -/
  | started : t.phase = .unstarted → t.cancelRequested = false → t.reply = none →
      m'.task? n = some { t with phase := .waiting } → m'.queue = m.queue → Advanced n t m m'
  /-- The task ends. -/
  | ended {ending : Ending} : t.phase = .unstarted ∨ t.phase = .resuming →
      (t.cancelRequested = true → ending = .cancelled none) →
      m'.task? n = some { t with phase := .ended ending } →
      m'.queue = m.queue ++ t.closingJobs n → Advanced n t m m'

theorem advanced_step (setup : Setup) (ht : m.task? n = some t) :
    Advanced n t m (m.step setup n) := by
  have only {u : Task} (hu : m.task? n = some u) : u = t := by simpa [ht] using hu.symm
  have finished {m₁ : Machine} {ending : Ending} (same : m₁.task? n = some t)
      (queue : m₁.queue = m.queue) (phase : t.phase = .unstarted ∨ t.phase = .resuming)
      (own : t.cancelRequested = true → ending = .cancelled none) :
      Advanced n t m (m₁.finish n ending) := by
    refine .ended phase own ?_ ?_
    · rw [task?_finish, if_pos rfl, same]
      rfl
    · rw [queue_finish, queue, same, Option.any_some, Task.closingJobs]
  have concluded {m₁ : Machine} {outcome : Except Failure Json} (same : m₁.task? n = some t)
      (queue : m₁.queue = m.queue) (phase : t.phase = .unstarted ∨ t.phase = .resuming)
      (own : t.cancelRequested = true → endingOf setup outcome = .cancelled none) :
      Advanced n t m (m₁.conclude setup n outcome) := by
    obtain ⟨m₂, heq, tasks, -, -, queue₂, -⟩ := conclude_eq setup n m₁ outcome
    rw [heq]
    exact finished ((tasks n).trans same) (queue₂.trans queue) phase own
  have cases := stepped setup n m
  generalize m.step setup n = m' at cases
  cases cases with
  | idle nothing => exact .idle (nothing t ht).1 (nothing t ht).2 rfl
  | dropped hu hp _ =>
    obtain rfl := only hu
    exact finished ht rfl (.inl hp) fun _ => rfl
  | unsent hu hp hc _ =>
    obtain rfl := only hu
    exact concluded (by rw [task?_record, ht]) rfl (.inl hp) (by simp [hc])
  | sent hu hp hc _ hr =>
    obtain rfl := only hu
    refine .started hp hc hr ?_ (queue_update _)
    rw [task?_update, if_pos rfl, task?_transmit, task?_record, ht]
    rfl
  | answered hu hp hc _ _ =>
    obtain rfl := only hu
    exact concluded (by rw [task?_record, task?_transmit, task?_record, ht]) rfl (.inl hp)
      (by simp [hc])
  | stopped hu hp _ =>
    obtain rfl := only hu
    exact concluded ht rfl (.inr hp) fun _ => rfl
  | resumed hu hp hc _ =>
    obtain rfl := only hu
    exact concluded (by rw [task?_record, ht]) rfl (.inr hp) (by simp [hc])

/-- **A step makes jobs of its own submission ready**, or none. -/
theorem queue_step (setup : Setup) (n : Nat) (m : Machine) :
    ∃ jobs, (m.step setup n).queue = m.queue ++ jobs ∧ (∀ job ∈ jobs, job.sequence = n) ∧
      (jobs.map Job.weight).sum ≤ 2 := by
  cases ht : m.task? n with
  | none => exact ⟨[], by rw [step, ht, List.append_nil], by simp, by simp⟩
  | some t =>
    cases advanced_step setup ht with
    | idle _ _ same => exact ⟨[], by rw [same, List.append_nil], by simp, by simp⟩
    | started _ _ _ _ queue => exact ⟨[], by rw [queue, List.append_nil], by simp, by simp⟩
    | ended _ _ _ queue =>
      refine ⟨_, queue, sequence_of_mem_closingJobs, ?_⟩
      rw [Task.closingJobs]
      split <;> simp [Job.weight]

/-- The report of an end is one of its own task. -/
theorem task?_settle_of_ne (other : k ≠ n) : (m.settle n).task? k = m.task? k := by
  have cases := settled n m
  generalize m.settle n = m' at cases
  cases cases with
  | idle _ => rfl
  | reported _ _ _ => rw [task?_update, if_neg other]
  | reset _ _ _ _ => exact (task?_congr rfl k).trans ((task?_update _).trans (if_neg other))

/-- The end of a task that has ended is reported. -/
theorem task?_settle {ending : Ending} (ht : m.task? n = some t) (ended : t.phase = .ended ending) :
    (m.settle n).task? n = some { t with phase := .settled ending } := by
  have only {u : Task} {e : Ending} (hu : m.task? n = some u) (hp : u.phase = .ended e) :
      e = ending := by
    obtain rfl : u = t := Option.some.inj (hu.symm.trans ht)
    simpa [ended] using hp.symm
  have cases := settled n m
  generalize m.settle n = m' at cases
  cases cases with
  | idle nothing => exact absurd ended (nothing t ht ending)
  | reported hu hp _ =>
    rw [task?_update, if_pos rfl, ht, only hu hp]
    rfl
  | reset hu hp _ _ =>
    refine (task?_congr rfl n).trans ((task?_update _).trans ?_)
    rw [if_pos rfl, ht, ← only hu hp]
    rfl

/-- And else there is nothing to report. -/
theorem settle_of_not_ended (ht : m.task? n = some t) (other : ∀ ending, t.phase ≠ .ended ending) :
    m.settle n = m := by
  rw [settle, ht]
  cases hp : t.phase with
  | ended ending => exact absurd hp (other ending)
  | unstarted | waiting | resuming | settled _ => simp [hp]

/-! ## Moves -/

/-- A change that leaves a task in its phase. -/
theorem passes_update {u : Task} {change : Task → Task} (ht : m.task? n = some t)
    (hu : m.task? k = some u) (stays : u.Stays (change u)) :
    ∃ t', (m.update k change).task? n = some t' ∧
      t.Passes n (m.jobsOf n) none t' ((m.update k change).jobsOf n) := by
  rw [jobsOf_congr (queue_update change), task?_update]
  split
  · next own =>
    subst own
    obtain rfl : t = u := Option.some.inj (ht.symm.trans hu)
    exact ⟨change t, by rw [ht]; rfl, .stays stays⟩
  · exact ⟨t, ht, .stays (.refl t)⟩

/-- A change that makes a task ready that waits. -/
theorem passes_ready {u : Task} {change : Task → Task} (ht : m.task? n = some t)
    (hu : m.task? k = some u) (waiting : u.phase = .waiting)
    (resuming : (change u).phase = .resuming) (marked : u.Marked (change u))
    (asked : (change u).cancelRequested = true ∨ (change u).reply.isSome = true) :
    ∃ t', ((m.update k change).enqueue (.step k)).task? n = some t' ∧
      t.Passes n (m.jobsOf n) none t' (((m.update k change).enqueue (.step k)).jobsOf n) := by
  have queue : ((m.update k change).enqueue (.step k)).queue = m.queue ++ [.step k] := by
    rw [enqueue, queue_update]
  have own : ∀ job ∈ [Job.step k], job.sequence = k := by simp [Job.sequence]
  rw [task?_enqueue, task?_update]
  split
  · next same =>
    subst same
    obtain rfl : t = u := Option.some.inj (ht.symm.trans hu)
    rw [jobsOf_append_own queue own]
    exact ⟨change t, by rw [ht]; rfl, .readied waiting resuming marked asked⟩
  · next other =>
    rw [jobsOf_append_other queue own other]
    exact ⟨t, ht, .stays (.refl t)⟩

/-- The reply that a task waits for makes it ready. -/
theorem passes_release (k : Nat) (reply : Reply) (ht : m.task? n = some t) :
    ∃ t', (m.release k reply).task? n = some t' ∧
      t.Passes n (m.jobsOf n) none t' ((m.release k reply).jobsOf n) := by
  rw [release]
  cases hu : m.task? k with
  | none => exact ⟨t, ht, .stays (.refl t)⟩
  | some u =>
    simp only
    cases hp : u.phase with
    | unstarted | resuming =>
      exact passes_update ht hu ⟨hp ▸ rfl, ⟨id, id⟩, fun _ => rfl, by simp [hp]⟩
    | waiting => exact passes_ready ht hu hp rfl ⟨id, id⟩ (.inr rfl)
    | ended _ | settled _ => exact ⟨t, ht, .stays (.refl t)⟩

/-- So does a request to cancel it. -/
theorem passes_cancel (k : Nat) (ht : m.task? n = some t) :
    ∃ t', (m.cancel k).task? n = some t' ∧
      t.Passes n (m.jobsOf n) none t' ((m.cancel k).jobsOf n) := by
  rw [cancel]
  cases hu : m.task? k with
  | none => exact ⟨t, ht, .stays (.refl t)⟩
  | some u =>
    simp only
    cases hp : u.phase with
    | unstarted | resuming =>
      exact passes_update ht hu ⟨hp ▸ rfl, ⟨fun _ => rfl, id⟩, id, fun _ => rfl⟩
    | waiting => exact passes_ready ht hu hp rfl ⟨fun _ => rfl, id⟩ (.inl rfl)
    | ended _ | settled _ => exact ⟨t, ht, .stays (.refl t)⟩

/-- Somebody who waits for a task leaves it in its phase. -/
theorem passes_watch (k : Nat) (ht : m.task? n = some t) :
    ∃ t', (m.watch k).task? n = some t' ∧
      t.Passes n (m.jobsOf n) none t' ((m.watch k).jobsOf n) := by
  cases hu : m.task? k with
  | none =>
    rw [watch, update_of_none hu]
    exact ⟨t, ht, .stays (.refl t)⟩
  | some u => exact passes_update ht hu ⟨rfl, ⟨id, fun _ => rfl⟩, id, fun _ => rfl⟩

/-- A job leaves the jobs of other submissions. -/
theorem jobsOf_runJob_of_ne (other : job.sequence ≠ n) :
    (m.runJob setup job).jobsOf n = m.jobsOf n := by
  cases job with
  | step k =>
    obtain ⟨jobs, queue, own, -⟩ := queue_step setup k m
    exact jobsOf_append_other queue own (Ne.symm other)
  | settle k => exact jobsOf_congr queue_settle n
  | wake k => rfl

/-- **A job is one of its own submission.** -/
theorem passes_runJob (setup : Setup) (head : m.queue.head? = some job) (ht : m.task? n = some t) :
    ∃ t', (m.popped.runJob setup job).task? n = some t' ∧
      t.Passes n (m.jobsOf n) (if job.sequence = n then some job else none) t'
        ((m.popped.runJob setup job).jobsOf n) := by
  have ht' : m.popped.task? n = some t := task?_popped.trans ht
  rw [jobsOf_of_head head]
  by_cases own : job.sequence = n
  · rw [if_pos own, if_pos own]
    subst own
    cases job with
    | step n =>
      rw [Job.sequence] at ht'
      cases advanced_step setup ht' with
      | idle started nothing same =>
        rw [runJob, same]
        exact ⟨t, ht', .idle rfl started nothing⟩
      | started unstarted kept none ht₁ queue =>
        refine ⟨_, ht₁, ?_⟩
        rw [runJob, jobsOf_congr queue]
        exact .started rfl unstarted kept none
      | ended phase asked ht₁ queue =>
        refine ⟨_, ht₁, ?_⟩
        rw [runJob, Job.sequence, jobsOf_append_own queue sequence_of_mem_closingJobs]
        exact .ended rfl phase asked
    | settle n =>
      rw [Job.sequence] at ht'
      rw [runJob, jobsOf_congr queue_settle]
      cases hp : t.phase with
      | ended ending => exact ⟨_, task?_settle ht' hp, .reported rfl hp⟩
      | unstarted | waiting | resuming | settled _ =>
        have other : ∀ ending, t.phase ≠ .ended ending := by simp [hp]
        rw [settle_of_not_ended ht' other]
        exact ⟨t, ht', .unreported rfl other⟩
    | wake n => exact ⟨t, ht', .woken rfl⟩
  · rw [if_neg own, if_neg own]
    refine ⟨t, ?_, ?_⟩
    · cases job with
      | step k => exact (task?_step_of_ne (Ne.symm own)).trans ht'
      | settle k => exact (task?_settle_of_ne (Ne.symm own)).trans ht'
      | wake k => exact ht'
    · rw [jobsOf_runJob_of_ne own]
      exact .stays (.refl t)

/-- **What a move does to a task and its jobs.** -/
theorem passes_of_perform (setup : Setup) (single : a.isMove = true) (ht : m.task? n = some t) :
    ∃ t', (m.perform setup a).task? n = some t' ∧
      t.Passes n (m.jobsOf n) (m.ranFor n a) t' ((m.perform setup a).jobsOf n) := by
  cases a with
  | edit _ | closeClient => exact ⟨t, (task?_congr rfl n).trans ht, .stays (.refl t)⟩
  | submit text reply =>
    have issued := (task?_isSome.1 (Option.isSome_iff_exists.2 ⟨t, ht⟩)).2
    have other : n ≠ m.latest + 1 := by omega
    have jobs : (m.submit text reply).jobsOf n = m.jobsOf n :=
      jobsOf_append_other (queue_submit text reply) (by simp [Job.sequence]) other
    refine ⟨t, by rw [perform, task?_submit, if_neg other, ht], ?_⟩
    rw [perform, jobs]
    exact .stays (.refl t)
  | release k reply => exact passes_release k reply ht
  | cancel k => exact passes_cancel k ht
  | watch k => exact passes_watch k ht
  | turn =>
    rw [perform]
    cases head : m.queue.head? with
    | none =>
      have same : m.turn setup = m := by rw [turn, List.head?_eq_none_iff.1 head]
      rw [same, ranFor, head]
      exact ⟨t, ht, .stays (.refl t)⟩
    | some job =>
      have ran : m.ranFor n .turn = if job.sequence = n then some job else none := by
        simp [ranFor, head, Option.filter]
      rw [turn_of_head setup head, ran]
      exact passes_runJob setup head ht
  | drain | run _ _ | close => simp [Action.isMove] at single

/-- Where there is no task, nothing becomes ready for it. -/
theorem jobsOf_of_unissued (setup : Setup) (single : a.isMove = true) (absent : m.task? n = none)
    (absent' : (m.perform setup a).task? n = none) (none : m.jobsOf n = []) :
    (m.perform setup a).jobsOf n = [] := by
  have prodded {k : Nat} {m' : Machine} (h : Prodded k m m') : m'.jobsOf n = [] := by
    cases h with
    | idle => exact none
    | noted _ _ _ => rw [jobsOf_congr (queue_update _), none]
    | @woken u change hu _ _ _ =>
      have other : n ≠ k := by
        rintro rfl
        simp [hu] at absent
      have queue : ((m.update k change).enqueue (.step k)).queue = m.queue ++ [.step k] := by
        rw [enqueue, queue_update]
      rw [jobsOf_append_other queue (by simp [Job.sequence]) other, none]
  cases a with
  | edit _ | closeClient => exact none
  | submit text reply =>
    have other : n ≠ m.latest + 1 := by
      rintro rfl
      rw [perform, task?_submit, if_pos rfl] at absent'
      simp at absent'
    exact (jobsOf_append_other (queue_submit text reply) (by simp [Job.sequence]) other).trans none
  | release k reply => exact prodded (prodded_release k reply m)
  | cancel k => exact prodded (prodded_cancel k m)
  | watch k => exact prodded (prodded_watch k m)
  | turn =>
    rw [perform]
    rcases turn_eq setup m with idle | ⟨job, head, run⟩
    · rw [idle, none]
    · rw [jobsOf_of_head head] at none
      split at none
      · simp at none
      · next other => rw [run, jobsOf_runJob_of_ne other, none]
  | drain | run _ _ | close => simp [Action.isMove] at single

/-! ## What is scheduled -/

/-- **The queue holds what the phases of the tasks tell**, and nothing
else. -/
structure Scheduled (m : Machine) : Prop where
  ready : ∀ n t, m.task? n = some t → t.Ready n (m.jobsOf n)
  unissued : ∀ n, m.task? n = none → m.jobsOf n = []

theorem scheduled_new (state : Query.State) : Scheduled (new state) where
  ready n t ht := by
    have absent : (new state).task? n = none := task?_eq_none.2 (Nat.eq_zero_or_pos n)
    simp [absent] at ht
  unissued _ _ := rfl

/-- Whatever a job is about has been issued. -/
theorem Scheduled.task_of_head (h : Scheduled m) (head : m.queue.head? = some job) :
    ∃ t, m.task? job.sequence = some t ∧
      t.Ready job.sequence (job :: m.popped.jobsOf job.sequence) := by
  have jobs : m.jobsOf job.sequence = job :: m.popped.jobsOf job.sequence := by
    rw [jobsOf_of_head head, if_pos rfl]
  cases ht : m.task? job.sequence with
  | none => simp [h.unissued _ ht] at jobs
  | some t => exact ⟨t, rfl, jobs ▸ h.ready _ t ht⟩

/-- **Every move keeps the queue so.** -/
theorem Scheduled.perform (h : Scheduled m) (single : a.isMove = true) :
    Scheduled (m.perform setup a) where
  ready n t' ht' := by
    cases ht : m.task? n with
    | none =>
      obtain ⟨text, reply, rfl, rfl⟩ := submitted_of_task single ht ht'
      have jobs : (m.submit text reply).jobsOf (m.latest + 1) = [.step (m.latest + 1)] := by
        rw [jobsOf_append_own (queue_submit text reply) (by simp [Job.sequence]),
          h.unissued _ ht, List.nil_append]
      rw [Machine.perform, task?_submit, if_pos rfl] at ht'
      obtain rfl := Option.some.inj ht'
      exact jobs
    | some t =>
      obtain ⟨u, hu, passes⟩ := passes_of_perform setup single ht
      obtain rfl : t' = u := Option.some.inj (ht'.symm.trans hu)
      exact (h.ready n t ht).passes passes
  unissued n absent' := by
    have absent : m.task? n = none := by
      cases ht : m.task? n with
      | none => rfl
      | some t =>
        obtain ⟨u, hu, -⟩ := passes_of_perform setup single ht
        simp [hu] at absent'
    exact jobsOf_of_unissued setup single absent absent' (h.unissued n absent)

/-- **So it is at the end of a run.** -/
theorem scheduled_runFrom (setup : Setup) (h : Scheduled m) (actions : List Action) :
    Scheduled (m.runFrom setup actions) :=
  runFrom_of_kept (fun _ _ single kept => kept.perform single) h actions

/-- Whose end is reported has ended. -/
theorem Scheduled.ended_of_settle (h : Scheduled m) (head : m.queue.head? = some (.settle n)) :
    ∃ t ending, m.task? n = some t ∧ t.phase = .ended ending := by
  obtain ⟨t, ht, ready⟩ := h.task_of_head head
  rw [Task.Ready] at ready
  cases hp : t.phase with
  | ended ending => exact ⟨t, ending, ht, hp⟩
  | unstarted | waiting | resuming | settled _ => simp [hp, Job.sequence] at ready

/-- **Whoever waits for a task goes on after its end was reported.** -/
theorem Scheduled.settled_of_wake (h : Scheduled m) (head : m.queue.head? = some (.wake n)) :
    ∃ t ending, m.task? n = some t ∧ t.phase = .settled ending := by
  obtain ⟨t, ht, ready⟩ := h.task_of_head head
  rw [Task.Ready] at ready
  cases hp : t.phase with
  | settled ending => exact ⟨t, ending, ht, hp⟩
  | unstarted | waiting | resuming | ended _ => simp [hp, Job.sequence] at ready

/-- **With nothing ready** a task waits for its reply, or its end has been
reported. -/
theorem Scheduled.at_rest (h : Scheduled m) (empty : m.queue = []) (ht : m.task? n = some t) :
    t.phase = .waiting ∧ t.reply = none ∨ ∃ ending, t.phase = .settled ending := by
  have ready := h.ready n t ht
  rw [jobsOf, empty, List.filter_nil, Task.Ready] at ready
  cases hp : t.phase with
  | waiting => exact .inl ⟨rfl, by simpa [hp] using ready⟩
  | settled ending => exact .inr ⟨ending, rfl⟩
  | unstarted | resuming | ended _ => simp [hp] at ready

/-! ## Draining -/

theorem weight_eq (m : Machine) : m.weight = (m.queue.map Job.weight).sum := by
  have shifted (jobs : List Job) (n : Nat) :
      jobs.foldl (fun n job => n + job.weight) n = n + (jobs.map Job.weight).sum := by
    induction jobs generalizing n with
    | nil => rfl
    | cons job jobs ih => rw [List.foldl_cons, ih, List.map_cons, List.sum_cons, Nat.add_assoc]
  rw [weight, shifted, Nat.zero_add]

/-- **A turn takes weight from the queue.** -/
theorem weight_turn_lt (setup : Setup) (head : m.queue.head? = some job) :
    (m.turn setup).weight < m.weight := by
  rw [turn_of_head setup head, weight_eq, weight_eq m, queue_of_head head, List.map_cons, List.sum_cons]
  cases job with
  | step k =>
    -- a step weighs more than all that it can make ready
    obtain ⟨jobs, queue, -, light⟩ := queue_step setup k m.popped
    rw [runJob, queue, List.map_append, List.sum_append, Job.weight]
    omega
  | settle k =>
    rw [runJob, queue_settle, Job.weight]
    omega
  | wake k =>
    rw [runJob, Job.weight]
    omega

/-- **Draining leaves nothing ready.** -/
theorem queue_drain (setup : Setup) (m : Machine) : (m.drain setup).queue = [] := by
  -- a turn of an empty queue changes nothing, so more turns than needed do no harm
  have turned (fuel : Nat) (m : Machine) (enough : m.weight ≤ fuel) :
      (m.turns setup fuel).queue = [] := by
    induction fuel generalizing m with
    | zero =>
      cases head : m.queue.head? with
      | none => exact List.head?_eq_none_iff.1 head
      | some job =>
        have := weight_turn_lt setup head
        omega
    | succ fuel ih =>
      refine ih (m.turn setup) ?_
      cases head : m.queue.head? with
      | none =>
        have empty := List.head?_eq_none_iff.1 head
        have same : m.turn setup = m := by rw [turn, empty]
        rw [same, weight_eq, empty]
        exact Nat.zero_le fuel
      | some job =>
        have := weight_turn_lt setup head
        omega
  exact turned m.weight m (Nat.le_refl _)

end Machine

end QueryConsole.Submission
