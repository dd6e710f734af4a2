import QueryConsole.Proofs.Submission.Coherent
import QueryConsole.Proofs.Submission.Register
/-!
# Closing

Closing asks every task that is under way to end as cancelled, and waits for
all of them. A task that was asked so while it was under way is `Doomed`:
whatever is done meanwhile, and even if its reply is there already, it ends
as cancelled (`Task.Doomed.passes`). Whoever waits for a task is `Owed` to go
on until that happens (`Task.Owes.passes`), and by then the end of the task
has been reported. So when all that closing waits for has happened, nothing
is under way, and what had ended before is as it was (`Closed`).
-/

namespace QueryConsole.Submission

namespace Task

variable {n : Nat} {t t' : Task} {jobs jobs' : List Job} {ran : Option Job}

/-- The task ended as cancelled, or will when its turn comes. -/
def Doomed (t : Task) : Prop :=
  t.cancelRequested = true ∧ (t.phase = .unstarted ∨ t.phase = .resuming) ∨
    t.ending? = some (.cancelled none)

/-- Whoever waits for the task has still to go on. -/
def Owes (n : Nat) (t : Task) (jobs : List Job) : Prop :=
  t.awaited = true ∧ t.isDone = false ∨ .wake n ∈ jobs

/-- **A task that is doomed stays so**, whether or not its reply comes. -/
theorem Doomed.passes (h : t.Doomed) (passes : t.Passes n jobs ran t' jobs') : t'.Doomed := by
  cases passes with
  | stays stays =>
    rw [Doomed, ending?, stays.phase]
    exact h.imp_left (And.imp_left stays.marked.cancelRequested)
  | readied waiting _ _ _ => simp [Doomed, ending?, waiting] at h
  | started _ unstarted kept _ => simp [Doomed, ending?, unstarted, kept] at h
  | ended _ phase cancelled =>
    have asked : t.cancelRequested = true := by
      rcases phase with hp | hp <;> simpa [Doomed, ending?, hp] using h
    exact .inr (by rw [ending?, cancelled asked])
  | reported _ ended =>
    exact .inr (by simpa [Doomed, ending?, ended] using h)
  | idle _ _ _ | unreported _ _ | woken _ => exact h

/-- **Whoever waits is owed to go on** until the job runs that lets them. -/
theorem Owes.passes (h : t.Owes n jobs) (passes : t.Passes n jobs ran t' jobs')
    (other : ran ≠ some (.wake n)) : t'.Owes n jobs' := by
  cases passes with
  | stays stays =>
    rw [Owes, isDone, ending?, stays.phase]
    exact h.imp_left (And.imp_left stays.marked.awaited)
  | readied _ resuming marked _ =>
    have under : t'.isDone = false := by simp [isDone, ending?, resuming]
    exact h.imp (And.imp marked.awaited fun _ => under) (List.mem_append_left _)
  | idle own _ _ | unreported own _ =>
    subst own
    exact h.imp_right fun mem => by simpa using mem
  | started own _ _ _ =>
    subst own
    exact h.imp (And.imp_right fun _ => rfl) fun mem => by simpa using mem
  | ended own _ _ =>
    -- the end of a task makes ready whoever waits for it
    subst own
    refine .inr ?_
    rcases h with ⟨awaited, _⟩ | mem
    · simp [closingJobs, awaited]
    · exact List.mem_append_left _ (by simpa using mem)
  | reported own ended =>
    subst own
    refine .inr ?_
    simpa [Owes, isDone, ending?, ended] using h
  | woken _ => exact absurd rfl other

end Task

namespace Machine

variable {setup : Setup} {m m' start : Machine} {n k : Nat} {a : Action} {order : List Nat}
  {actions : List Action}

/-- The task of a submission has not ended. -/
def UnderWay (n : Nat) (m : Machine) : Prop :=
  ∃ t, m.task? n = some t ∧ t.isDone = false

/-- It ended as cancelled, or will when its turn comes. -/
def Doomed (n : Nat) (m : Machine) : Prop :=
  ∃ t, m.task? n = some t ∧ t.Doomed

/-- Whoever waits for it has still to go on. -/
def Owed (n : Nat) (m : Machine) : Prop :=
  ∃ t, m.task? n = some t ∧ t.Owes n (m.jobsOf n)

/-! ## What is asked for -/

theorem UnderWay.prodded (h : UnderWay n m) (prodded : Prodded k m m') : UnderWay n m' := by
  obtain ⟨t, ht, under⟩ := h
  obtain ⟨t', ht', rests⟩ := prodded.rests ht
  exact ⟨t', ht', rests.isDone.trans under⟩

/-- **Whatever is under way is doomed by a request to cancel it**: before it
starts, while it waits, and with its reply there. -/
theorem doomed_cancel (h : UnderWay n m) : Doomed n (m.cancel n) := by
  obtain ⟨t, ht, under⟩ := h
  have changed {m' : Machine} (change : Task → Task) (task : m'.task? n = (m.task? n).map change)
      (doomed : (change t).Doomed) : Doomed n m' :=
    ⟨change t, by rw [task, ht]; rfl, doomed⟩
  rw [cancel, ht]
  simp only
  cases hp : t.phase with
  | unstarted => exact changed _ (by simp; rfl) (.inl ⟨rfl, .inl hp⟩)
  | waiting => exact changed _ (by simp; rfl) (.inl ⟨rfl, .inr rfl⟩)
  | resuming => exact changed _ (by simp; rfl) (.inl ⟨rfl, .inr hp⟩)
  | ended _ | settled _ => simp [Task.isDone, Task.ending?, hp] at under

/-- Whoever begins to wait for it is owed to go on. -/
theorem owed_watch (h : UnderWay n m) : Owed n (m.watch n) := by
  obtain ⟨t, ht, under⟩ := h
  exact ⟨{ t with awaited := true }, by rw [watch, task?_update, if_pos rfl, ht]; rfl,
    .inl ⟨rfl, under⟩⟩

theorem Doomed.perform (h : Doomed n m) (single : a.isMove = true) :
    Doomed n (m.perform setup a) := by
  obtain ⟨t, ht, doomed⟩ := h
  obtain ⟨t', ht', passes⟩ := passes_of_perform setup single ht
  exact ⟨t', ht', doomed.passes passes⟩

theorem Doomed.runFrom (h : Doomed n m) (actions : List Action) :
    Doomed n (m.runFrom setup actions) :=
  runFrom_of_kept (fun _ _ single kept => kept.perform single) h actions

theorem Owed.perform (h : Owed n m) (single : a.isMove = true)
    (other : ¬ RunsNext (.wake n) a m) : Owed n (m.perform setup a) := by
  obtain ⟨t, ht, owes⟩ := h
  obtain ⟨t', ht', passes⟩ := passes_of_perform setup single ht
  exact ⟨t', ht', owes.passes passes fun ran => other (ranFor_eq_some_iff.1 ran).1⟩

/-- What is asked for one submission after another is asked for each. -/
theorem runFrom_map_of_mem {P Q : Machine → Prop} {ask : Nat → Action}
    (before : ∀ (k : Nat) (m : Machine), P m → P (m.perform setup (ask k)))
    (asked : ∀ m : Machine, P m → Q (m.perform setup (ask n)))
    (after : ∀ (k : Nat) (m : Machine), Q m → Q (m.perform setup (ask k)))
    (mem : n ∈ order) (h : P m) : Q (m.runFrom setup (order.map ask)) := by
  have kept (rest : List Nat) {m : Machine} (h : Q m) : Q (m.runFrom setup (rest.map ask)) := by
    induction rest generalizing m with
    | nil => exact h
    | cons k rest ih => exact ih (after k m h)
  induction order generalizing m with
  | nil => simp at mem
  | cons k rest ih =>
    rcases List.mem_cons.1 mem with rfl | mem
    · exact kept rest (asked m h)
    · exact ih mem (before k m h)

/-- **What closing asks for**: that the tasks end as cancelled, one after
another, and then to wait for them. -/
def closing (order : List Nat) : List Action :=
  order.map .cancel ++ order.map .watch

theorem quiet_closing (order : List Nat) :
    ∀ a ∈ closing order, a.leavesOutcome = true ∧ a.issues = false := by
  intro a mem
  rcases List.mem_append.1 mem with mem | mem <;>
    obtain ⟨n, -, rfl⟩ := List.mem_map.1 mem <;> exact ⟨rfl, rfl⟩

theorem doomed_cancellations (mem : n ∈ order) (under : UnderWay n m) :
    Doomed n (m.runFrom setup (order.map .cancel)) :=
  runFrom_map_of_mem (fun k _ under => under.prodded (prodded_cancel k _))
    (fun _ under => doomed_cancel under) (fun _ _ doomed => doomed.perform rfl) mem under

theorem doomed_closing (mem : n ∈ order) (under : UnderWay n m) :
    Doomed n (m.runFrom setup (closing order)) := by
  rw [closing, runFrom_append]
  exact (doomed_cancellations mem under).runFrom _

theorem owed_closing (mem : n ∈ order) (under : UnderWay n m) :
    Owed n (m.runFrom setup (closing order)) := by
  have still : UnderWay n (m.runFrom setup (order.map .cancel)) :=
    runFrom_map_of_mem (fun k _ under => under.prodded (prodded_cancel k _))
      (fun _ under => under.prodded (prodded_cancel n _))
      (fun k _ under => under.prodded (prodded_cancel k _)) mem under
  rw [closing, runFrom_append]
  exact runFrom_map_of_mem (fun k _ under => under.prodded (prodded_watch k _))
    (fun _ under => owed_watch under)
    (fun _ _ owed => owed.perform rfl (by simp [RunsNext])) mem still

/-! ## What becomes of it -/

/-- A task that is doomed is settled as cancelled. -/
theorem Doomed.settled (h : Doomed n m)
    (reported : ∃ t ending, m.task? n = some t ∧ t.phase = .settled ending) :
    ∃ t, m.task? n = some t ∧ t.phase = .settled (.cancelled none) := by
  obtain ⟨t, ht, doomed⟩ := h
  obtain ⟨u, ending, hu, phase⟩ := reported
  obtain rfl : t = u := Option.some.inj (ht.symm.trans hu)
  exact ⟨t, ht, by simpa [Task.Doomed, Task.ending?, phase] using doomed⟩

/-- With nothing ready it is. -/
theorem Doomed.at_rest (h : Doomed n m) (scheduled : Scheduled m) (empty : m.queue = []) :
    ∃ t, m.task? n = some t ∧ t.phase = .settled (.cancelled none) := by
  obtain ⟨t, ht, doomed⟩ := h
  rcases scheduled.at_rest empty ht with ⟨waiting, -⟩ | ⟨ending, settled⟩
  · simp [Task.Doomed, Task.ending?, waiting] at doomed
  · exact Doomed.settled ⟨t, ht, doomed⟩ ⟨t, ending, ht, settled⟩

/-- All who wait for the tasks go on in the course of a run. -/
def AllWoken (setup : Setup) (start : Machine) (awaited : List Nat) (actions : List Action) :
    Prop :=
  ∀ n ∈ awaited, ∃ moment : Moment setup start actions,
    RunsNext (.wake n) moment.move moment.machine

/-- **When whoever waits has gone on, a task that was doomed is settled as
cancelled.** -/
theorem Doomed.settled_of_woken (h : Doomed n start) (scheduled : Scheduled start)
    (moment : Moment setup start actions) (woken : RunsNext (.wake n) moment.move moment.machine) :
    ∃ t, (start.runFrom setup actions).task? n = some t ∧
      t.phase = .settled (.cancelled none) := by
  have scheduled' : Scheduled moment.machine :=
    moment.machine_of_perform (fun _ _ single kept => kept.perform single) scheduled
  obtain ⟨t, ending, ht, phase⟩ := scheduled'.settled_of_wake woken.2
  obtain ⟨-, t', ht', settled⟩ := moment.runFrom_of_next
    (P := fun m => Scheduled m ∧ ∃ t, m.task? n = some t ∧ t.isSettled = true)
    (fun _ _ single kept => settled_perform single kept)
    (settled_perform moment.isMove ⟨scheduled', t, ht, by rw [Task.isSettled, phase]⟩)
  refine (h.runFrom actions).settled ⟨t', ?_⟩
  rw [Task.isSettled] at settled
  split at settled
  · next ending phase => exact ⟨ending, ht', phase⟩
  · simp at settled

/-- **Where the end of a task has been reported and nothing is ready any more,
whoever waits has gone on.** -/
theorem Owed.woken_of_settled (h : Owed n start)
    (settled : ∃ t ending, (start.runFrom setup actions).task? n = some t ∧
      t.phase = .settled ending)
    (empty : (start.runFrom setup actions).queue = []) :
    ∃ moment : Moment setup start actions, RunsNext (.wake n) moment.move moment.machine := by
  have free : ¬ Owed n (start.runFrom setup actions) := by
    rintro ⟨t, ht, owes⟩
    obtain ⟨u, ending, hu, settled⟩ := settled
    obtain rfl : t = u := Option.some.inj (ht.symm.trans hu)
    simp [Task.Owes, Task.isDone, Task.ending?, settled, jobsOf, empty] at owes
  obtain ⟨moment, owed, next⟩ :=
    exists_moment (P := fun m => ¬ Owed n m) (not_not_intro h) free
  refine ⟨moment, ?_⟩
  by_contra other
  exact next ((not_not.1 owed).perform moment.isMove other)

/-- So it is for a task that is doomed. -/
theorem Owed.woken (h : Owed n start) (doomed : Doomed n start) (scheduled : Scheduled start)
    (empty : (start.runFrom setup actions).queue = []) :
    ∃ moment : Moment setup start actions, RunsNext (.wake n) moment.move moment.machine := by
  obtain ⟨t, ht, settled⟩ :=
    (doomed.runFrom actions).at_rest (scheduled_runFrom setup scheduled actions) empty
  exact h.woken_of_settled ⟨t, _, ht, settled⟩ empty

/-! ## What closing leaves -/

/-- **Nothing is under way any more.** What was under way before is settled
as cancelled and is no longer tracked, what had ended is as it was, and the
state is idle if the latest task was under way. -/
structure Closed (m m' : Machine) : Prop where
  inFlight : m'.inFlight = 0
  cancelled : ∀ n ∈ m.pending, ∃ t, m'.task? n = some t ∧ t.phase = .settled (.cancelled none)
  untracked : ∀ n ∈ m.pending, n ∉ m'.trackedNumbers
  kept : ∀ n t ending, m.task? n = some t → t.ending? = some ending →
    ∃ t', m'.task? n = some t' ∧ t'.ending? = some ending
  idle : m.latest ∈ m.pending → m'.state.outcome = .idle

/-- It is so when all that was under way is settled as cancelled, and
nothing was issued meanwhile. -/
theorem closed_of_settled (actions : List Action) (coherent : Coherent setup m)
    (ordinary : ∀ a ∈ actions, a.leavesOutcome = true) (quiet : ∀ a ∈ actions, a.issues = false)
    (settled : ∀ n ∈ m.pending, ∃ t, (m.runFrom setup actions).task? n = some t ∧
      t.phase = .settled (.cancelled none)) :
    Closed m (m.runFrom setup actions) := by
  have latest : (m.runFrom setup actions).latest = m.latest := latest_of_quiet quiet
  have kept {n : Nat} {t : Task} (ht : m.task? n = some t) :
      ∃ t', (m.runFrom setup actions).task? n = some t' ∧ t.Becomes t' :=
    task_of_runFrom setup actions ht
  have coherent' : Coherent setup (m.runFrom setup actions) :=
    (kept_coherent setup).runFrom ordinary coherent
  generalize m.runFrom setup actions = m' at latest kept coherent' settled ⊢
  refine ⟨?_, settled, ?_, ?_, ?_⟩
  · rw [inFlight_eq, List.length_eq_zero_iff, List.eq_nil_iff_forall_not_mem]
    intro n mem
    obtain ⟨t', ht', under⟩ := mem_pending.1 mem
    have issued := task?_isSome.1 (Option.isSome_iff_exists.2 ⟨t', ht'⟩)
    obtain ⟨t, ht⟩ := Option.isSome_iff_exists.1 (task?_isSome.2 (latest ▸ issued))
    -- whether or not it had ended before, it has now
    have done : t'.isDone = true := by
      cases hd : t.isDone with
      | true =>
        obtain ⟨u, hu, becomes⟩ := kept ht
        obtain rfl : t' = u := Option.some.inj (ht'.symm.trans hu)
        exact becomes.isDone hd
      | false =>
        obtain ⟨u, hu, phase⟩ := settled n (mem_pending.2 ⟨t, ht, hd⟩)
        obtain rfl : t' = u := Option.some.inj (ht'.symm.trans hu)
        rw [Task.isDone, Task.ending?, phase]
        rfl
    simp [done] at under
  · intro n mem tracked
    obtain ⟨t, ht, phase⟩ := settled n mem
    obtain ⟨u, hu, open'⟩ := mem_numbers.1 tracked
    obtain rfl : t = u := Option.some.inj (ht.symm.trans hu)
    simp [Task.isSettled, phase] at open'
  · intro n t ending ht ended
    obtain ⟨t', ht', becomes⟩ := kept ht
    exact ⟨t', ht', becomes.ending ending ended⟩
  · intro under
    obtain ⟨t, ht, phase⟩ := settled _ under
    rw [coherent'.outcome t (latest ▸ ht), Task.calledFor, phase]

/-- Closing at once leaves it so. -/
theorem closed_close (coherent : Coherent setup m) (scheduled : Scheduled m) :
    Closed m (m.close setup) := by
  refine closed_of_settled [.close] coherent (by simp [Action.leavesOutcome])
    (by simp [Action.issues]) fun n mem => ?_
  have closed : m.runFrom setup [.close] =
      (m.runFrom setup (m.pending.map .cancel)).drain setup := by
    have nonempty : m.pending.isEmpty = false :=
      List.isEmpty_eq_false_iff_exists_mem.2 ⟨n, mem⟩
    rw [runFrom, List.foldl_cons, List.foldl_nil, perform, close, nonempty, runFrom,
      List.foldl_map]
    rfl
  have doomed : Doomed n (m.runFrom setup [.close]) := by
    rw [closed]
    exact (doomed_cancellations mem (mem_pending.1 mem)).runFrom [.drain]
  exact doomed.at_rest (scheduled_runFrom setup scheduled _) (by rw [closed, queue_drain])

/-- **And so does closing while other things are done**, once whoever waits
for the tasks has gone on. -/
theorem closed_of_woken (coherent : Coherent setup m) (scheduled : Scheduled m)
    (perm : order.Perm m.pending) {meanwhile : List Action}
    (ordinary : ∀ a ∈ meanwhile, a.leavesOutcome = true) (quiet : ∀ a ∈ meanwhile, a.issues = false)
    (woken : AllWoken setup (m.runFrom setup (closing order)) order meanwhile) :
    Closed m ((m.runFrom setup (closing order)).runFrom setup meanwhile) := by
  rw [← runFrom_append]
  refine closed_of_settled _ coherent ?_ ?_ fun n mem => ?_
  · intro a mem
    exact (List.mem_append.1 mem).elim (fun own => (quiet_closing order a own).1) (ordinary a)
  · intro a mem
    exact (List.mem_append.1 mem).elim (fun own => (quiet_closing order a own).2) (quiet a)
  · rw [runFrom_append]
    obtain ⟨moment, next⟩ := woken n (perm.mem_iff.2 mem)
    exact (doomed_closing (perm.mem_iff.2 mem) (mem_pending.1 mem)).settled_of_woken
      (scheduled_runFrom setup scheduled _) moment next

/-- **Nobody waits for good**: with the jobs that are ready run, whoever
closes goes on. -/
theorem allWoken_drain (scheduled : Scheduled m) (perm : order.Perm m.pending)
    (meanwhile : List Action) :
    AllWoken setup (m.runFrom setup (closing order)) order (meanwhile ++ [.drain]) := by
  intro n mem
  have under := mem_pending.1 (perm.mem_iff.1 mem)
  refine (owed_closing mem under).woken (doomed_closing mem under)
    (scheduled_runFrom setup scheduled _) ?_
  rw [runFrom_append]
  exact queue_drain setup _

/-- **Every task is accounted for, and closing ends them all.** In any run in
which nobody edits the outcome, the `k`-th submission is issued with the
number `k`; one that is tried outside of the loop is refused, and the machine
stays as it is. The register of tracked tasks holds those that were issued
and whose end has not been reported, and what is under way are those in it
that have not ended.

From wherever such a run leads, closing changes nothing if nothing is under
way. Otherwise every task that is under way is cancelled, in any order, and
whoever closes waits for all of them; when they have gone on, and nothing
was issued meanwhile, nothing is under way, what was is cancelled and no
longer tracked, what had ended is as it was, and the state is idle if the
latest task was under way. They do go on, at the latest when nothing is
ready. -/
theorem accounting_of_run (setup : Setup) (queryText : Text) (actions : List Action)
    (ordinary : ∀ a ∈ actions, a.leavesOutcome = true) (m : Machine)
    (run : (new (.new queryText)).runFrom setup actions = m) :
    let start := new (.new queryText)
    let tracked := register setup start [] (start.moves setup actions)
    (∀ (h : Moment setup start actions) (text : Option Text) (reply : Option Reply),
      h.move = .submit text reply →
      let sequence := h.before.countP Action.issues + 1
      let query := text.getD h.machine.state.queryText
      h.next.latest = sequence ∧ h.next.task? sequence = some (Task.new query reply) ∧
        h.next.log = h.machine.log ++ [.started sequence query.length]) ∧
    m.latest = (start.moves setup actions).countP Action.issues ∧
    (∀ text reply, m.attempt true text reply = (none, m.submit text reply) ∧
      m.attempt false text reply = (some .noRunningLoop, m)) ∧
    (∀ n, n ∈ tracked ↔ (0 < n ∧ n ≤ m.latest) ∧
      ¬ ∃ h : Moment setup start actions, RunsNext (.settle n) h.move h.machine) ∧
    m.tracked = tracked.length ∧
    m.inFlight = (tracked.filter fun n => m.canCancel n).length ∧
    (m.pending = [] → m.close setup = m) ∧
    Closed m (m.close setup) ∧
    ∀ order : List Nat, order.Perm m.pending → ∀ meanwhile : List Action,
      (∀ a ∈ meanwhile, a.leavesOutcome = true ∧ a.issues = false) →
      (AllWoken setup (m.runFrom setup (closing order)) order meanwhile →
        Closed m ((m.runFrom setup (closing order)).runFrom setup meanwhile)) ∧
      AllWoken setup (m.runFrom setup (closing order)) order (meanwhile ++ [.drain]) := by
  have coherent := coherent_runFrom setup queryText ordinary
  have scheduled := scheduled_runFrom setup (scheduled_new (.new queryText)) actions
  have registered := register_of_run setup (.new queryText) actions
  subst run
  refine ⟨fun h text reply move => ?_, latest_of_run setup _ actions, fun _ _ => ⟨rfl, rfl⟩,
    fun n => mem_register, ?_, ?_, fun idle => ?_, closed_close coherent scheduled,
    fun order perm meanwhile still => ⟨?_, allWoken_drain scheduled perm meanwhile⟩⟩
  · intro sequence query
    rw [Moment.next, move, perform, latest_submit, task?_submit, log_submit, h.latest_machine]
    exact ⟨rfl, if_pos rfl, rfl⟩
  · rw [registered, trackedNumbers, length_numbers, Machine.tracked]
  · rw [registered, inFlight_eq, ← filter_trackedNumbers]
    rfl
  · rw [close, idle]
    rfl
  · exact closed_of_woken coherent scheduled perm (fun a mem => (still a mem).1)
      fun a mem => (still a mem).2

/-- Four submissions: one waits, one has its reply and has not gone on, one
has ended, and one has not started. -/
def unfinished : List Action :=
  [.submit (some "a") none, .submit (some "b") none, .submit (some "c") (some (.response 200 [0x31])),
    .turn, .turn, .turn, .release 2 (.response 200 [0x32]), .submit (some "d") none]

theorem accounting_of_run_unfinished :
    let setup : Setup := ⟨⟨[], .zero⟩, ⟨.empty, "en"⟩, none⟩
    let m := (new (.new [])).runFrom setup unfinished
    let m' := (m.runFrom setup (closing [4, 1, 2])).runFrom setup
      [.release 1 (.response 200 [0x33]), .drain]
    m.inFlight = 3 ∧ m.tracked = 4 ∧ m'.inFlight = 0 ∧ m'.state.outcome = .idle ∧
      (m.close setup).inFlight = 0 ∧
      ∃ t, m'.task? 3 = some t ∧ t.ending? = some .completed := by
  obtain ⟨-, -, -, -, tracked, inFlight, -, closed, closing⟩ := accounting_of_run
    ⟨⟨[], .zero⟩, ⟨.empty, "en"⟩, none⟩ [] unfinished (by decide) _ rfl
  obtain ⟨-, woken⟩ := closing [4, 1, 2] (by decide)
    [.release 1 (.response 200 [0x33])] (by decide)
  obtain ⟨after, -⟩ := closing [4, 1, 2] (by decide)
    [.release 1 (.response 200 [0x33]), .drain] (by decide)
  have left := after woken
  exact ⟨inFlight.trans (by decide), tracked.trans (by decide), left.inFlight,
    left.idle (by decide), closed.inFlight, left.kept 3 _ .completed rfl (by decide)⟩

end Machine

end QueryConsole.Submission
