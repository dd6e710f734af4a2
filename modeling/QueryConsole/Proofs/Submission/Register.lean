import Mathlib.Data.List.Induction
import QueryConsole.Proofs.Submission.Ready
/-!
# The register of tasks

A task is tracked from its submission until its end has been reported. The
`register` keeps the numbers of tracked tasks by hand: a submission puts its
own number in, and the report of an end takes the number of its task out.
`register_eq` says that it holds, after any moves, the tasks whose end has
not been reported, in their order; so the counts of a machine are those of
the register. Submissions are numbered from one in the order in which they
are issued (`latest_of_moves`).
-/

namespace QueryConsole.Submission

/-- Whether an action issues a submission. -/
def Action.issues : Action → Bool
  | .submit _ _ => true
  | .run _ _ => true
  | _ => false

namespace Machine

variable {setup : Setup} {m m' : Machine} {n : Nat} {a : Action} {t : Task} {p : Task → Bool}

/-! ## Numbers -/

/-- The numbers of the submissions whose tasks have a property. -/
def numbers (p : Task → Bool) (m : Machine) : List Nat :=
  (List.range' 1 m.latest).filter fun n => (m.task? n).any p

theorem mem_range'_of_task (ht : m.task? n = some t) : n ∈ List.range' 1 m.latest := by
  have issued := task?_isSome.1 (Option.isSome_iff_exists.2 ⟨t, ht⟩)
  rw [List.mem_range'_1]
  omega

theorem task_of_mem_range' (mem : n ∈ List.range' 1 m.latest) : ∃ t, m.task? n = some t := by
  rw [List.mem_range'_1] at mem
  exact Option.isSome_iff_exists.1 (task?_isSome.2 (by omega))

theorem mem_numbers : n ∈ m.numbers p ↔ ∃ t, m.task? n = some t ∧ p t = true := by
  rw [numbers, List.mem_filter, Option.any_eq_true]
  refine ⟨fun ⟨_, held⟩ => held, ?_⟩
  rintro ⟨t, ht, holds⟩
  exact ⟨mem_range'_of_task ht, t, ht, holds⟩

/-- The last of the tasks comes last among the numbers. -/
theorem numbers_append (tasks : m'.tasks = m.tasks ++ [t]) :
    m'.numbers p = m.numbers p ++ if p t then [m.latest + 1] else [] := by
  have latest : m'.latest = m.latest + 1 := by rw [Machine.latest, tasks]; simp [Machine.latest]
  have older : ∀ n ∈ List.range' 1 m.latest, (m'.task? n).any p = (m.task? n).any p := by
    intro n mem
    rw [List.mem_range'_1, Machine.latest] at mem
    obtain ⟨i, rfl⟩ : ∃ i, n = i + 1 := ⟨n - 1, by omega⟩
    have inside : i < m.tasks.length := by omega
    rw [task?_succ, task?_succ, tasks, List.getElem?_append_left inside]
  have newest : (m'.task? (m.latest + 1)).any p = p t := by
    rw [task?_succ, tasks, Machine.latest, List.getElem?_concat_length]
    rfl
  rw [numbers, latest, List.range'_concat, List.filter_append, List.filter_congr older, ← numbers,
    Nat.one_mul, Nat.add_comm 1, List.filter_cons, newest, List.filter_nil]

/-- **A property is counted by the numbers of the tasks that have it.** -/
theorem length_numbers (p : Task → Bool) (m : Machine) :
    (m.numbers p).length = m.tasks.countP p := by
  obtain ⟨tasks, eq⟩ : ∃ tasks, m.tasks = tasks := ⟨_, rfl⟩
  induction tasks using List.reverseRecOn generalizing m with
  | nil => simp [numbers, Machine.latest, eq]
  | append_singleton tasks t ih =>
    have before := ih { m with tasks } rfl
    rw [numbers_append (m := { m with tasks }) eq, List.length_append, before, eq,
      List.countP_append]
    cases holds : p t <;> simp [holds]

/-! ## Issuing -/

/-- **Submissions are numbered in the order in which they are issued.** -/
theorem latest_of_moves {moves : List Action} (single : ∀ a ∈ moves, a.isMove = true) :
    (m.runFrom setup moves).latest = m.latest + moves.countP Action.issues := by
  induction moves generalizing m with
  | nil => rfl
  | cons a rest ih =>
    rw [runFrom_cons, ih fun b mem => single b (List.mem_cons_of_mem a mem), List.countP_cons]
    have first := single a List.mem_cons_self
    rcases latest_perform setup m first with ⟨text, reply, rfl⟩ | same
    · rw [perform, latest_submit, Action.issues, if_pos rfl]
      omega
    · have silent : a.issues = false := by
        cases a with
        | submit text reply => simp [perform] at same
        | run _ _ => simp [Action.isMove] at first
        | edit _ | release _ _ | cancel _ | watch _ | turn | drain | close | closeClient => rfl
      rw [same, silent]
      simp

/-- An action that issues nothing is made of moves that issue nothing. -/
theorem issues_of_mem_movesOf {b : Action} (quiet : a.issues = false)
    (mem : b ∈ m.movesOf setup a) : b.issues = false := by
  cases a with
  | submit _ _ | run _ _ => simp [Action.issues] at quiet
  | drain =>
    rw [List.eq_of_mem_replicate mem]
    rfl
  | close =>
    rw [movesOf] at mem
    split at mem
    · simp at mem
    · simp only [cancellations, List.mem_append, List.mem_map, List.mem_replicate] at mem
      rcases mem with ⟨n, -, rfl⟩ | ⟨-, rfl⟩ <;> rfl
  | edit _ | release _ _ | cancel _ | watch _ | turn | closeClient =>
    rw [List.mem_singleton.1 mem]
    rfl

/-- So nothing is issued where no action issues anything. -/
theorem latest_of_quiet {actions : List Action} (quiet : ∀ a ∈ actions, a.issues = false) :
    (m.runFrom setup actions).latest = m.latest := by
  induction actions generalizing m with
  | nil => rfl
  | cons a rest ih =>
    have none : (m.movesOf setup a).countP Action.issues = 0 :=
      List.countP_eq_zero.2 fun b mem => by
        simp [issues_of_mem_movesOf (quiet a List.mem_cons_self) mem]
    rw [runFrom_cons, ih fun b mem => quiet b (List.mem_cons_of_mem a mem), ← runFrom_movesOf,
      latest_of_moves fun b mem => isMove_of_mem_movesOf mem, none, Nat.add_zero]

/-- What a submission that is tried comes to, and the machine after it: one
outside of the loop that runs jobs is refused, and the machine stays. -/
def attempt (running : Bool) (text : Option Text) (reply : Option Reply) (m : Machine) :
    Option SubmitFault × Machine :=
  match m.submitIfRunning running text reply with
  | .ok m' => (none, m')
  | .error fault => (some fault, m)

/-! ## The register -/

/-- The tasks whose end has not been reported. -/
def trackedNumbers (m : Machine) : List Nat :=
  m.numbers fun t => !t.isSettled

/-- The tracked tasks after a move: a submission is tracked from then on, and
a task whose end is reported no longer is. -/
def keep (m : Machine) (kept : List Nat) : Action → List Nat
  | .submit _ _ => kept ++ [m.latest + 1]
  | a => kept.filter fun n => m.ranFor n a != some (.settle n)

/-- **The register of tracked tasks**, kept along a list of moves. -/
def register (setup : Setup) : Machine → List Nat → List Action → List Nat
  | _, kept, [] => kept
  | m, kept, a :: rest => register setup (m.perform setup a) (m.keep kept a) rest

/-- A task is settled by the report of its end alone. -/
theorem isSettled_of_perform (setup : Setup) (h : Scheduled m) (single : a.isMove = true)
    (ht : m.task? n = some t) :
    ∃ t', (m.perform setup a).task? n = some t' ∧
      t'.isSettled = (t.isSettled || m.ranFor n a == some (.settle n)) := by
  obtain ⟨t', ht', passes⟩ := passes_of_perform setup single ht
  refine ⟨t', ht', ?_⟩
  have ready := h.ready n t ht
  generalize m.jobsOf n = jobs at ready passes
  generalize (m.perform setup a).jobsOf n = jobs' at passes
  generalize m.ranFor n a = ran at passes
  cases passes with
  | stays stays => simp [Task.isSettled, stays.phase]
  | readied waiting resuming _ _ => simp [Task.isSettled, waiting, resuming]
  | idle _ _ _ | woken _ => simp
  | started _ unstarted _ _ => simp [Task.isSettled, unstarted]
  | ended _ phase _ => rcases phase with hp | hp <;> simp [Task.isSettled, hp]
  | reported _ _ => simp [Task.isSettled]
  | unreported own other =>
    -- a report is ready only for a task that has ended
    subst own
    rw [Task.Ready] at ready
    cases hp : t.phase with
    | ended ending => exact absurd hp (other ending)
    | unstarted | waiting | resuming | settled _ => simp [hp] at ready

/-- **The register follows the machine.** -/
theorem keep_eq (h : Scheduled m) (single : a.isMove = true) :
    m.keep m.trackedNumbers a = (m.perform setup a).trackedNumbers := by
  rcases latest_perform setup m single with ⟨text, reply, rfl⟩ | latest
  · exact (numbers_append (tasks_submit text reply)).symm
  · have kept : m.keep m.trackedNumbers a =
        m.trackedNumbers.filter fun n => m.ranFor n a != some (.settle n) := by
      cases a with
      | submit text reply => simp [perform] at latest
      | edit _ | release _ _ | cancel _ | watch _ | turn | drain | run _ _ | close | closeClient =>
        rfl
    rw [kept, trackedNumbers, trackedNumbers, numbers, numbers, List.filter_filter, latest]
    refine List.filter_congr fun n mem => ?_
    obtain ⟨t, ht⟩ := task_of_mem_range' mem
    obtain ⟨t', ht', settled⟩ := isSettled_of_perform setup h single ht
    rw [ht, ht', Option.any_some, Option.any_some, settled, Bool.not_or, Bool.and_comm]
    rfl

/-- **The register holds the tasks whose end has not been reported.** -/
theorem register_eq (h : Scheduled m) {moves : List Action}
    (single : ∀ a ∈ moves, a.isMove = true) :
    register setup m m.trackedNumbers moves = (m.runFrom setup moves).trackedNumbers := by
  induction moves generalizing m with
  | nil => rfl
  | cons a rest ih =>
    have first := single a List.mem_cons_self
    rw [register, keep_eq h first, ih (h.perform first) fun b mem =>
      single b (List.mem_cons_of_mem a mem), runFrom_cons]

/-- A task that is settled stays so. -/
theorem settled_perform (single : a.isMove = true)
    (h : Scheduled m ∧ ∃ t, m.task? n = some t ∧ t.isSettled = true) :
    Scheduled (m.perform setup a) ∧
      ∃ t, (m.perform setup a).task? n = some t ∧ t.isSettled = true := by
  obtain ⟨scheduled, t, ht, settled⟩ := h
  obtain ⟨t', ht', same⟩ := isSettled_of_perform setup scheduled single ht
  exact ⟨scheduled.perform single, t', ht', by rw [same, settled, Bool.true_or]⟩

/-- **A task is settled exactly if its end was reported** in the course of a
run. -/
theorem isSettled_iff_reported {start : Machine} {actions : List Action} (h : Scheduled start)
    (fresh : start.task? n = none) (ht : (start.runFrom setup actions).task? n = some t) :
    t.isSettled = true ↔
      ∃ moment : Moment setup start actions, RunsNext (.settle n) moment.move moment.machine := by
  have scheduled (moment : Moment setup start actions) : Scheduled moment.machine :=
    moment.machine_of_perform (fun _ _ single kept => kept.perform single) h
  refine ⟨fun settled => ?_, fun ⟨moment, reported⟩ => ?_⟩
  · obtain ⟨moment, before, t₂, ht₂, settled₂⟩ := exists_moment
      (P := fun m => ∃ t, m.task? n = some t ∧ t.isSettled = true) (by simp [fresh])
      ⟨t, ht, settled⟩
    refine ⟨moment, ?_⟩
    cases ht₁ : moment.machine.task? n with
    | none =>
      -- a task that comes into being is a new one
      obtain ⟨text, reply, move, same⟩ := submitted_of_task moment.isMove ht₁ ht₂
      rw [Moment.next, move, perform, task?_submit, if_pos same] at ht₂
      simp [← Option.some.inj ht₂, Task.new, Task.isSettled] at settled₂
    | some t₁ =>
      obtain ⟨t', ht', same⟩ :=
        isSettled_of_perform setup (scheduled moment) moment.isMove ht₁
      obtain rfl : t₂ = t' := Option.some.inj (ht₂.symm.trans ht')
      have unsettled : t₁.isSettled = false := by simpa using fun yes => before ⟨t₁, ht₁, yes⟩
      rw [settled₂, unsettled, Bool.false_or] at same
      exact (ranFor_eq_some_iff.1 (beq_iff_eq.1 same.symm)).1
  · obtain ⟨t₁, ending, ht₁, -⟩ := (scheduled moment).ended_of_settle reported.2
    obtain ⟨t₂, ht₂, settled₂⟩ :=
      isSettled_of_perform setup (scheduled moment) moment.isMove ht₁
    have ran : ranFor n moment.machine moment.move = some (.settle n) :=
      ranFor_eq_some_iff.2 ⟨reported, rfl⟩
    rw [ran, beq_self_eq_true, Bool.or_true] at settled₂
    obtain ⟨-, t', ht', settled'⟩ := moment.runFrom_of_next
      (P := fun m => Scheduled m ∧ ∃ t, m.task? n = some t ∧ t.isSettled = true)
      (fun _ _ single kept => settled_perform single kept)
      ⟨(scheduled moment).perform moment.isMove, t₂, ht₂, settled₂⟩
    obtain rfl : t = t' := Option.some.inj (ht.symm.trans ht')
    exact settled'

/-! ## From the start -/

variable {state : Query.State} {actions : List Action}

/-- What has been issued by a moment of a run was issued before it. -/
theorem Moment.latest_machine (h : Moment setup (new state) actions) :
    h.machine.latest = h.before.countP Action.issues := by
  rw [Moment.machine, latest_of_moves fun _ mem => isMove_of_mem_moves (h.mem_before mem)]
  exact Nat.zero_add _

theorem latest_of_run (setup : Setup) (state : Query.State) (actions : List Action) :
    ((new state).runFrom setup actions).latest =
      ((new state).moves setup actions).countP Action.issues := by
  rw [← runFrom_moves, latest_of_moves fun _ mem => isMove_of_mem_moves mem]
  exact Nat.zero_add _

/-- The register begins empty. -/
theorem register_of_run (setup : Setup) (state : Query.State) (actions : List Action) :
    register setup (new state) [] ((new state).moves setup actions) =
      ((new state).runFrom setup actions).trackedNumbers := by
  rw [← runFrom_moves]
  exact register_eq (scheduled_new state) fun _ mem => isMove_of_mem_moves mem

/-- **It holds what was issued and has not been reported.** -/
theorem mem_register :
    n ∈ register setup (new state) [] ((new state).moves setup actions) ↔
      (0 < n ∧ n ≤ ((new state).runFrom setup actions).latest) ∧
        ¬ ∃ moment : Moment setup (new state) actions,
          RunsNext (.settle n) moment.move moment.machine := by
  have fresh : (new state).task? n = none := task?_eq_none.2 (Nat.eq_zero_or_pos n)
  rw [register_of_run, trackedNumbers, mem_numbers, ← task?_isSome, Option.isSome_iff_exists]
  constructor
  · rintro ⟨t, ht, unsettled⟩
    refine ⟨⟨t, ht⟩, fun reported => ?_⟩
    simp [(isSettled_iff_reported (scheduled_new state) fresh ht).2 reported] at unsettled
  · rintro ⟨⟨t, ht⟩, unreported⟩
    refine ⟨t, ht, ?_⟩
    rw [← isSettled_iff_reported (scheduled_new state) fresh ht] at unreported
    simpa using unreported

/-! ## What is under way -/

/-- What can still be cancelled is what has not ended. -/
theorem pending_eq (m : Machine) : m.pending = m.numbers fun t => !t.isDone := by
  have shifted : List.range' 1 m.latest = (List.range m.latest).map (· + 1) := by
    rw [List.range_eq_range', ← List.range'_succ_left]
  rw [pending, numbers, shifted, List.filter_map, ← List.filterMap_eq_filter, List.map_filterMap]
  congr 1
  funext i
  rw [canCancel, Option.guard, Function.comp_apply]
  split <;> rfl

/-- A task that has not ended is tracked, so what is under way is counted
among the tracked tasks. -/
theorem filter_trackedNumbers (m : Machine) :
    (m.trackedNumbers.filter fun n => (m.task? n).any fun t => !t.isDone) = m.pending := by
  rw [pending_eq, trackedNumbers, numbers, numbers, List.filter_filter]
  refine List.filter_congr fun n mem => ?_
  obtain ⟨t, ht⟩ := task_of_mem_range' mem
  rw [ht, Option.any_some, Option.any_some]
  cases hp : t.phase <;> simp [Task.isDone, Task.isSettled, Task.ending?, hp]

theorem mem_pending : n ∈ m.pending ↔ ∃ t, m.task? n = some t ∧ t.isDone = false := by
  simp [pending_eq, mem_numbers]

/-- The number of tasks under way. -/
theorem inFlight_eq (m : Machine) : m.inFlight = m.pending.length := by
  rw [pending_eq, length_numbers, inFlight]

end Machine

end QueryConsole.Submission
