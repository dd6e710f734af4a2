import QueryConsole.Proofs.Submission.Closing
import QueryConsole.Proofs.Submission.Exchanged
/-!
# Waiting for a submission

A `Call` is a submission whose reply is at hand and that somebody waits for.
Its task never waits, so nobody waits for it for good (`exists_wake`), and
whoever does goes on after the end of the task has been reported. As long as
nothing else is issued and nobody edits the outcome, the state belongs to the
call: it loads until the task has ended, and shows what the exchange of the
call left from then on, whatever becomes of older tasks (`Answers.perform`). So
what a call leaves is what it leaves alone (`call_leaves`).
-/

namespace QueryConsole.Submission

/-- **A call**, and what may happen to it before its task starts: the client
is one that `opens` allows, and if the task is asked to end then it is
`stopped`. -/
structure Call where
  query : Text
  reply : Reply
  opens : Bool → Prop
  stopped : Prop

namespace Call

/-- What the call may come to. -/
def MayComeTo (call : Call) (setup : Setup) (outcome : Except Failure Json) : Prop :=
  (∃ isOpen, call.opens isOpen ∧
    outcome = Exchange.comesTo setup.endpoint isOpen call.query call.reply) ∨
  (call.stopped ∧ outcome = .error (.cancelled none))

/-- What its task says about the state. -/
def Tells (call : Call) (setup : Setup) (m : Machine) (t : Task) : Prop :=
  match t.phase with
  | .unstarted =>
    t.query = call.query ∧ t.reply = some call.reply ∧
      (t.cancelRequested = true → call.stopped) ∧ call.opens m.isOpen ∧
      m.state.outcome = .loading
  | .waiting => False
  | .resuming => False
  | .ended ending =>
    ∃ outcome, call.MayComeTo setup outcome ∧ ending = endingOf setup outcome ∧
      m.state.outcome = (shown? setup outcome).getD .loading
  | .settled ending =>
    ∃ outcome, call.MayComeTo setup outcome ∧ ending = endingOf setup outcome ∧
      m.state.outcome = leftBy setup outcome

/-- An action that leaves the state to the call. -/
structure Bears (call : Call) (n : Nat) (a : Action) : Prop where
  quiet : a.issues = false
  ordinary : a.leavesOutcome = true
  replied : ∀ reply, a ≠ .release n reply
  stopped : a = .cancel n → call.stopped
  closed : a = .closeClient → call.opens false

end Call

namespace Machine

variable {setup : Setup} {m m' : Machine} {n : Nat} {a : Action} {call : Call}

/-- **The latest submission answers a call.** -/
structure Answers (setup : Setup) (call : Call) (n : Nat) (m : Machine) : Prop where
  latest : n = m.latest
  task : ∃ t, m.task? n = some t ∧ call.Tells setup m t

/-! ## Moves -/

namespace Answers

/-- It depends on the task, the client and the outcome alone. -/
theorem congr (h : Answers setup call n m) (task : m'.task? n = m.task? n)
    (latest : m'.latest = m.latest) (isOpen : m'.isOpen = m.isOpen)
    (outcome : m'.state.outcome = m.state.outcome) : Answers setup call n m' := by
  obtain ⟨t, ht, tells⟩ := h.task
  refine ⟨h.latest.trans latest.symm, t, task.trans ht, ?_⟩
  unfold Call.Tells at tells ⊢
  rwa [isOpen, outcome]

/-- A note on the task that leaves it in its phase. -/
theorem update (h : Answers setup call n m) {change : Task → Task}
    (phase : ∀ t, (change t).phase = t.phase) (query : ∀ t, (change t).query = t.query)
    (reply : ∀ t, (change t).reply = t.reply)
    (cancelled : ∀ t, (change t).cancelRequested = true → t.cancelRequested = true ∨ call.stopped) :
    Answers setup call n (m.update n change) := by
  obtain ⟨t, ht, tells⟩ := h.task
  refine ⟨by rw [latest_update, h.latest], change t, by rw [task?_update, if_pos rfl, ht]; rfl, ?_⟩
  unfold Call.Tells at tells ⊢
  rw [phase, isOpen_update, state_update]
  cases hp : t.phase with
  | unstarted =>
    rw [hp] at tells
    obtain ⟨asked, replied, stopped, rest⟩ := tells
    exact ⟨by rw [query, asked], by rw [reply, replied],
      fun ended => (cancelled t ended).elim stopped id, rest⟩
  | waiting | resuming | ended _ | settled _ => rwa [hp] at tells

/-- A call that has come to an outcome. -/
theorem of_ended {t : Task} (outcome : Except Failure Json) (latest : n = m.latest)
    (ht : m.task? n = some { t with phase := .ended (endingOf setup outcome) })
    (may : call.MayComeTo setup outcome)
    (shown : m.state.outcome = (shown? setup outcome).getD .loading) : Answers setup call n m :=
  ⟨latest, _, ht, outcome, may, rfl, shown⟩

/-- **The step of the task ends the call.** -/
theorem step (h : Answers setup call n m) : Answers setup call n (m.step setup n) := by
  obtain ⟨t, ht, tells⟩ := h.task
  unfold Call.Tells at tells
  cases hp : t.phase with
  | waiting | resuming => simp [hp] at tells
  | ended _ | settled _ => rwa [step_of_isDone ht (by simp [Task.isDone, Task.ending?, hp])]
  | unstarted =>
    rw [hp] at tells
    obtain ⟨asked, replied, stopped, opens, loading⟩ := tells
    cases kept : t.cancelRequested with
    | true =>
      have dropped : m.step setup n = m.finish n (.cancelled none) := by
        rw [Machine.step, ht]
        simp [hp, kept]
      rw [dropped]
      refine of_ended (t := t) (.error (.cancelled none)) ?_ ?_
        (.inr ⟨stopped kept, rfl⟩) ?_
      · rw [latest_finish, h.latest]
      · rw [task?_finish, if_pos rfl, ht]
        rfl
      · rw [state_finish, loading]
        rfl
    | false =>
      have concludes := concludes_of_unstarted setup ht hp kept (.inl replied)
      rw [asked] at concludes
      refine of_ended (t := t) _ ?_ ?_ (.inl ⟨_, opens, rfl⟩) ?_
      · rw [concludes.latest, h.latest]
      · rw [concludes.task, ht]
        rfl
      · rw [concludes.state, if_pos h.latest, loading]

/-- **The report of its end** leaves what the call came to. -/
theorem settle (h : Answers setup call n m) : Answers setup call n (m.settle n) := by
  obtain ⟨t, ht, tells⟩ := h.task
  cases hp : t.phase with
  | ended ending =>
    unfold Call.Tells at tells
    rw [hp] at tells
    obtain ⟨outcome, may, rfl, shown⟩ := tells
    exact ⟨by rw [latest_settle, h.latest], _, task?_settle ht hp, outcome, may, rfl,
      outcome_settle ht hp h.latest shown⟩
  | unstarted | waiting | resuming | settled _ => rwa [settle_of_not_ended ht (by simp [hp])]

/-- A turn is a job of the call, or of an older submission. -/
theorem turn (h : Answers setup call n m) : Answers setup call n (m.turn setup) := by
  rcases turn_eq setup m with idle | ⟨job, -, run⟩
  · rwa [idle]
  · have popped : Answers setup call n m.popped := h.congr task?_popped rfl rfl rfl
    rw [run]
    by_cases own : job.sequence = n
    · subst own
      cases job with
      | step n => exact popped.step
      | settle n => exact popped.settle
      | wake n => exact popped
    · have state : (m.popped.runJob setup job).state = m.popped.state :=
        state_runJob (by rwa [latest_popped, ← h.latest])
      cases job with
      | step k =>
        exact popped.congr (task?_step_of_ne (Ne.symm own)) latest_step isOpen_step
          (congrArg _ state)
      | settle k =>
        exact popped.congr (task?_settle_of_ne (Ne.symm own)) latest_settle isOpen_settle
          (congrArg _ state)
      | wake k => exact popped

/-- What is asked of another task. -/
theorem prodded {k : Nat} (h : Answers setup call n m) (other : n ≠ k) (prodded : Prodded k m m') :
    Answers setup call n m' :=
  h.congr (prodded.task?_of_ne other) prodded.latest prodded.isOpen (by rw [prodded.state])

/-- A request to end the task is noted as long as it has not started. -/
theorem cancel (h : Answers setup call n m) (stopped : call.stopped) :
    Answers setup call n (m.cancel n) := by
  obtain ⟨t, ht, tells⟩ := h.task
  rw [Machine.cancel, ht]
  dsimp only
  cases hp : t.phase with
  | unstarted =>
    exact h.update (fun _ => rfl) (fun _ => rfl) (fun _ => rfl) fun _ _ => .inr stopped
  | waiting | resuming => simp [Call.Tells, hp] at tells
  | ended _ | settled _ => exact h

/-- **Every move leaves the state to the call** that bears it. -/
theorem perform (h : Answers setup call n m) (single : a.isMove = true) (bears : call.Bears n a) :
    Answers setup call n (m.perform setup a) := by
  cases a with
  | edit e =>
    cases e with
    | setText text => exact h.congr (task?_congr rfl n) rfl rfl rfl
    | begin | reset | succeed _ | fail _ _ =>
      exact absurd bears.ordinary (by simp [Action.leavesOutcome])
  | submit text reply => exact absurd bears.quiet (by simp [Action.issues])
  | release k reply =>
    have other : n ≠ k := fun same => bears.replied reply (by rw [same])
    exact h.prodded other (prodded_release k reply m)
  | cancel k =>
    by_cases own : n = k
    · subst own
      exact h.cancel (bears.stopped rfl)
    · exact h.prodded own (prodded_cancel k m)
  | watch k =>
    by_cases own : n = k
    · subst own
      exact h.update (fun _ => rfl) (fun _ => rfl) (fun _ => rfl) fun _ => .inl
    · exact h.prodded own (prodded_watch k m)
  | turn => exact h.turn
  | closeClient =>
    obtain ⟨t, ht, tells⟩ := h.task
    refine ⟨h.latest, t, (task?_congr rfl n).trans ht, ?_⟩
    unfold Call.Tells at tells ⊢
    cases hp : t.phase with
    | unstarted =>
      rw [hp] at tells
      obtain ⟨asked, replied, stopped, -, loading⟩ := tells
      exact ⟨asked, replied, stopped, bears.closed rfl, loading⟩
    | waiting | resuming | ended _ | settled _ => rwa [hp] at tells
  | drain | run _ _ | close => simp [Action.isMove] at single

/-- **So does every run** of such moves. -/
theorem runFrom (h : Answers setup call n m) {actions : List Action}
    (bears : ∀ a ∈ m.moves setup actions, call.Bears n a) :
    Answers setup call n (m.runFrom setup actions) := by
  rw [← runFrom_moves]
  have single : ∀ a ∈ m.moves setup actions, a.isMove = true := fun _ => isMove_of_mem_moves
  generalize m.moves setup actions = moves at bears single
  induction moves generalizing m with
  | nil => exact h
  | cons a rest ih =>
    exact ih (h.perform (single a List.mem_cons_self) (bears a List.mem_cons_self))
      (fun b mem => bears b (List.mem_cons_of_mem a mem))
      fun b mem => single b (List.mem_cons_of_mem a mem)

end Answers

/-- A submission with its reply at hand, and somebody who waits for it. -/
def awaiting (text : Option Text) (reply : Reply) (m : Machine) : Machine :=
  (m.submit text (some reply)).watch (m.latest + 1)

variable {text : Option Text} {reply : Reply}

/-- A call that has just been issued. -/
theorem answers_awaiting (query : call.query = text.getD m.state.queryText)
    (replied : call.reply = reply) (opens : call.opens m.isOpen) :
    Answers setup call (m.latest + 1) (m.awaiting text reply) := by
  have issued : Answers setup call (m.latest + 1) (m.submit text (some reply)) := by
    refine ⟨(latest_submit text _).symm, _, by rw [task?_submit, if_pos rfl], ?_⟩
    exact ⟨query.symm, by rw [replied]; rfl, by simp [Task.new], opens, rfl⟩
  exact issued.update (fun _ => rfl) (fun _ => rfl) (fun _ => rfl) fun _ => .inl

/-- What an action is made of that issues nothing: itself, turns, and what
closing asks for. -/
theorem of_mem_movesOf {b : Action} (quiet : a.issues = false) (mem : b ∈ m.movesOf setup a) :
    b = a ∨ b = .turn ∨ a = .close ∧ ∃ k, b = .cancel k := by
  cases a with
  | submit _ _ | run _ _ => simp [Action.issues] at quiet
  | drain => exact .inr (.inl (List.eq_of_mem_replicate mem))
  | close =>
    rw [movesOf] at mem
    split at mem
    · simp at mem
    · rcases List.mem_append.1 mem with mem | mem
      · obtain ⟨k, -, rfl⟩ := List.mem_map.1 mem
        exact .inr (.inr ⟨rfl, k, rfl⟩)
      · exact .inr (.inl (List.eq_of_mem_replicate mem))
  | edit _ | release _ _ | cancel _ | watch _ | turn | closeClient =>
    exact .inl (List.mem_singleton.1 mem)

/-- Every move of a run is one of an action. -/
theorem mem_movesOf_of_mem_moves {actions : List Action} {b : Action}
    (mem : b ∈ m.moves setup actions) : ∃ m' : Machine, ∃ a ∈ actions, b ∈ m'.movesOf setup a := by
  induction actions generalizing m with
  | nil => simp [moves] at mem
  | cons a rest ih =>
    rcases List.mem_append.1 mem with mem | mem
    · exact ⟨m, a, List.mem_cons_self, mem⟩
    · obtain ⟨m', b', mem', own⟩ := ih mem
      exact ⟨m', b', List.mem_cons_of_mem a mem', own⟩

/-! ## Whoever waits goes on -/

/-- The task of a submission has its reply. -/
def Replied (n : Nat) (m : Machine) : Prop :=
  ∃ t, m.task? n = some t ∧ t.reply.isSome = true

/-- It keeps it, since no task waits whose reply is there. -/
theorem Replied.perform (h : Replied n m) (scheduled : Scheduled m) (single : a.isMove = true) :
    Replied n (m.perform setup a) := by
  obtain ⟨t, ht, replied⟩ := h
  obtain ⟨t', ht', passes⟩ := passes_of_perform setup single ht
  have ready := scheduled.ready n t ht
  refine ⟨t', ht', ?_⟩
  generalize m.jobsOf n = jobs at passes ready
  generalize m.ranFor n a = ran at passes
  generalize (m.perform setup a).jobsOf n = jobs' at passes
  cases passes with
  | stays stays => exact stays.reply replied
  | readied waiting _ _ _ =>
    unfold Task.Ready at ready
    simp only [waiting] at ready
    simp [ready.2] at replied
  | idle _ _ _ | started _ _ _ _ | ended _ _ _ | unreported _ _ | reported _ _ | woken _ =>
    exact replied

/-- **With nothing ready its end has been reported.** -/
theorem Replied.settled (h : Replied n m) (scheduled : Scheduled m) (empty : m.queue = []) :
    ∃ t ending, m.task? n = some t ∧ t.phase = .settled ending := by
  obtain ⟨t, ht, replied⟩ := h
  rcases scheduled.at_rest empty ht with ⟨-, none⟩ | ⟨ending, settled⟩
  · simp [none] at replied
  · exact ⟨t, ending, ht, settled⟩

theorem replied_runFrom (scheduled : Scheduled m) (h : Replied n m) (actions : List Action) :
    Replied n (m.runFrom setup actions) :=
  (runFrom_of_kept (P := fun m => Scheduled m ∧ Replied n m)
    (fun _ _ single kept => ⟨kept.1.perform single, kept.2.perform kept.1 single⟩)
    ⟨scheduled, h⟩ actions).2

theorem scheduled_awaiting (scheduled : Scheduled m) (text : Option Text) (reply : Reply) :
    Scheduled (m.awaiting text reply) :=
  scheduled_runFrom ⟨⟨[], .zero⟩, ⟨.empty, []⟩, none⟩ scheduled
    [.submit text (some reply), .watch (m.latest + 1)]

theorem replied_awaiting : Replied (m.latest + 1) (m.awaiting text reply) := by
  refine ⟨{ Task.new (text.getD m.state.queryText) (some reply) with awaited := true }, ?_, rfl⟩
  rw [awaiting, watch, task?_update, if_pos rfl, task?_submit, if_pos rfl]
  rfl

theorem owed_awaiting : Owed (m.latest + 1) (m.awaiting text reply) :=
  owed_watch ⟨_, by rw [task?_submit, if_pos rfl], rfl⟩

/-- **Nobody waits for good**: where nothing is ready any more, whoever waits
for the call has gone on. -/
theorem exists_wake (setup : Setup) (scheduled : Scheduled m) {actions : List Action}
    (empty : ((m.awaiting text reply).runFrom setup actions).queue = []) :
    ∃ h : Moment setup (m.awaiting text reply) actions,
      RunsNext (.wake (m.latest + 1)) h.move h.machine := by
  have issued := scheduled_awaiting scheduled text reply
  refine owed_awaiting.woken_of_settled ?_ empty
  exact (replied_runFrom issued replied_awaiting actions).settled
    (scheduled_runFrom setup issued actions) empty

/-- The turns of a wait lead to the one that lets whoever waits go on, or all of
them are done and somebody is still owed to. -/
theorem wait_cases (setup : Setup) (n fuel : Nat) (m : Machine) :
    (∃ k, RunsNext (.wake n) .turn (m.runFrom setup (.replicate k .turn)) ∧
      m.turnsUntilWake setup n fuel = (m.runFrom setup (.replicate k .turn)).turn setup) ∨
    (m.turnsUntilWake setup n fuel = m.turns setup fuel ∧
      (Owed n m → Owed n (m.turns setup fuel))) := by
  induction fuel generalizing m with
  | zero => exact .inr ⟨rfl, id⟩
  | succ fuel ih =>
    unfold turnsUntilWake
    by_cases next : m.queue.head? = some (.wake n)
    · rw [if_pos next]
      exact .inl ⟨0, ⟨rfl, next⟩, rfl⟩
    · rw [if_neg next]
      rcases ih (m.turn setup) with ⟨k, wakes, waited⟩ | ⟨waited, owed⟩
      · exact .inl ⟨k + 1, wakes, waited⟩
      · refine .inr ⟨waited, fun owes => owed ?_⟩
        exact owes.perform (a := .turn) rfl fun runs => next runs.2

/-- **A call that is made and waited for returns**: it is over with the turn
that lets whoever waits go on. -/
theorem run_wakes (setup : Setup) (scheduled : Scheduled m) (text : Option Text) (reply : Reply) :
    ∃ k, RunsNext (.wake (m.latest + 1)) .turn
        ((m.awaiting text reply).runFrom setup (.replicate k .turn)) ∧
      m.run setup text reply =
        ((m.awaiting text reply).runFrom setup (.replicate k .turn)).turn setup := by
  have waited : m.run setup text reply =
      (m.awaiting text reply).turnsUntilWake setup (m.latest + 1)
        (m.awaiting text reply).weight := by
    have issued : (m.submit text (some reply)).task? (m.latest + 1) =
        some (Task.new (text.getD m.state.queryText) (some reply)) := by
      rw [task?_submit, if_pos rfl]
    rw [run, await, latest_submit, issued]
    rfl
  rw [waited]
  rcases wait_cases setup (m.latest + 1) (m.awaiting text reply).weight (m.awaiting text reply) with
    wakes | ⟨-, owed⟩
  · exact wakes
  · -- with all turns done nothing is ready, and nobody is owed to go on
    have issued := scheduled_awaiting scheduled text reply
    have drained : (m.awaiting text reply).turns setup (m.awaiting text reply).weight =
        (m.awaiting text reply).runFrom setup [.drain] := rfl
    have empty : ((m.awaiting text reply).runFrom setup [.drain]).queue = [] := queue_drain setup _
    obtain ⟨t, ht, owes⟩ := owed owed_awaiting
    rw [drained] at ht owes
    obtain ⟨u, ending, hu, settled⟩ :=
      (replied_runFrom issued replied_awaiting [.drain]).settled
        (scheduled_runFrom setup issued [.drain]) empty
    obtain rfl : t = u := Option.some.inj (ht.symm.trans hu)
    simp [Task.Owes, Task.isDone, Task.ending?, settled, jobsOf, empty] at owes

/-! ## What a call leaves -/

/-- **A call is over**: its end has been reported, and it is neither under way
nor tracked. -/
structure Over (n : Nat) (ending : Ending) (m : Machine) : Prop where
  settled : ∃ t, m.task? n = some t ∧ t.phase = .settled ending
  notPending : n ∉ m.pending
  untracked : n ∉ m.trackedNumbers

theorem over_of_settled {t : Task} {ending : Ending} (ht : m.task? n = some t)
    (settled : t.phase = .settled ending) : Over n ending m := by
  refine ⟨⟨t, ht, settled⟩, fun mem => ?_, fun mem => ?_⟩
  · obtain ⟨u, hu, under⟩ := mem_pending.1 mem
    obtain rfl : t = u := Option.some.inj (ht.symm.trans hu)
    simp [Task.isDone, Task.ending?, settled] at under
  · obtain ⟨u, hu, open'⟩ := mem_numbers.1 mem
    obtain rfl : t = u := Option.some.inj (ht.symm.trans hu)
    simp [Task.isSettled, settled] at open'

theorem Over.unique {ending ending' : Ending} (h : Over n ending m) (h' : Over n ending' m) :
    ending = ending' := by
  obtain ⟨t, ht, settled⟩ := h.settled
  obtain ⟨u, hu, settled'⟩ := h'.settled
  obtain rfl : t = u := Option.some.inj (ht.symm.trans hu)
  simpa [settled] using settled'

theorem turn_of_wakes (setup : Setup) (wakes : RunsNext (.wake n) .turn m) :
    m.turn setup = m.popped :=
  turn_of_head setup wakes.2

/-- Whoever waits for a call goes on when it is over. -/
theorem over_of_wakes (setup : Setup) (scheduled : Scheduled m)
    (wakes : RunsNext (.wake n) .turn m) : ∃ ending, Over n ending (m.turn setup) := by
  obtain ⟨t, ending, ht, settled⟩ := scheduled.settled_of_wake wakes.2
  rw [turn_of_wakes setup wakes]
  exact ⟨ending, over_of_settled (task?_popped.trans ht) settled⟩

/-- **And the state shows what the call came to.** -/
theorem Answers.left (h : Answers setup call n m) (scheduled : Scheduled m)
    (wakes : RunsNext (.wake n) .turn m) :
    ∃ outcome, call.MayComeTo setup outcome ∧
      Over n (endingOf setup outcome) (m.turn setup) ∧
      (m.turn setup).state.outcome = leftBy setup outcome := by
  obtain ⟨t, ending, ht, settled⟩ := scheduled.settled_of_wake wakes.2
  obtain ⟨u, hu, tells⟩ := h.task
  obtain rfl : t = u := Option.some.inj (ht.symm.trans hu)
  unfold Call.Tells at tells
  rw [settled] at tells
  obtain ⟨outcome, may, rfl, left⟩ := tells
  rw [turn_of_wakes setup wakes]
  exact ⟨outcome, may, over_of_settled (task?_popped.trans ht) settled, left⟩

theorem Reachable.scheduled {queryText : Text} (h : Reachable setup queryText m) : Scheduled m := by
  obtain ⟨actions, rfl⟩ := h
  exact scheduled_runFrom setup (scheduled_new _) actions

/-- A new machine whose client is closed is one that it was closed on. -/
theorem reachable_new (setup : Setup) (isOpen : Bool) (queryText : Text) :
    Reachable setup queryText { new (.new queryText) with isOpen } := by
  cases isOpen with
  | true => exact ⟨[], rfl⟩
  | false => exact ⟨[.closeClient], rfl⟩

/-- The same call to a new machine, over a client that is open or closed. -/
def alone (setup : Setup) (isOpen : Bool) (queryText : Text) (text : Option Text) (reply : Reply) :
    Machine :=
  { new (.new queryText) with isOpen }.run setup text reply

/-- **Alone a call leaves its exchange.** -/
theorem alone_leaves (setup : Setup) (isOpen : Bool) (queryText : Text) (text : Option Text)
    (reply : Reply) :
    let outcome := Exchange.comesTo setup.endpoint isOpen (text.getD queryText) reply
    Over 1 (endingOf setup outcome) (alone setup isOpen queryText text reply) ∧
      (alone setup isOpen queryText text reply).state.outcome = leftBy setup outcome := by
  let fresh : Machine := { new (.new queryText) with isOpen }
  let own : Call := ⟨text.getD queryText, reply, (· = isOpen), False⟩
  have scheduled : Scheduled fresh := (reachable_new setup isOpen queryText).scheduled
  have issued : Answers setup own (fresh.latest + 1) (fresh.awaiting text reply) :=
    answers_awaiting rfl rfl rfl
  obtain ⟨k, wakes, ran⟩ := run_wakes setup scheduled text reply
  have answers : Answers setup own (fresh.latest + 1)
      ((fresh.awaiting text reply).runFrom setup (.replicate k .turn)) := by
    refine issued.runFrom fun a mem => ?_
    obtain ⟨m', b, mem', made⟩ := mem_movesOf_of_mem_moves mem
    rw [List.eq_of_mem_replicate mem'] at made
    rw [List.mem_singleton.1 made]
    exact ⟨rfl, rfl, by simp, by simp, by simp⟩
  obtain ⟨outcome, may, ended, left⟩ :=
    answers.left (scheduled_runFrom setup (scheduled_awaiting scheduled text reply) _) wakes
  rw [← ran] at ended left
  rcases may with ⟨o, same, came⟩ | ⟨no, -⟩
  · rw [came, show o = isOpen from same] at ended left
    exact ⟨ended, left⟩
  · exact no.elim

/-- **What a call leaves** where nothing else was issued meanwhile and nobody
edited the outcome: the state no longer loads, and is idle just if the call
was cancelled. If somebody cancelled it meanwhile then that is how it may have
ended; otherwise it has ended, and left, what it does alone, over the client as
it was or one that was closed meanwhile. -/
structure Leaves (setup : Setup) (text : Option Text) (reply : Reply) (m : Machine)
    (meanwhile : List Action) (ending : Ending) (m' : Machine) : Prop where
  not_loading : m'.state.outcome ≠ .loading
  idle_iff : m'.state.outcome = .idle ↔ ∃ message, ending = .cancelled message
  alone :
    (∃ isOpen, (isOpen = m.isOpen ∨ isOpen = false ∧ .closeClient ∈ meanwhile) ∧
      let m₁ := Machine.alone setup isOpen m.state.queryText text reply
      m'.state.outcome = m₁.state.outcome ∧
        ∃ t, m₁.task? 1 = some t ∧ t.phase = .settled ending) ∨
    ((.cancel (m.latest + 1) ∈ meanwhile ∨ .close ∈ meanwhile) ∧ ending = .cancelled none)

/-- **A call returns when it is over, and leaves what it leaves alone.** From
wherever a run leads, with older submissions in any phase, and for every text
and every reply that is at hand: the call returns, whether the loop does
nothing else or anything else is done meanwhile; when it does, its end has been
reported, and it is neither under way nor tracked; and unless something newer
was issued meanwhile, the outcome edited or the reply replaced, and if its
failure can be described, the state is what the call leaves. -/
theorem call_leaves (setup : Setup) (queryText : Text) (actions : List Action) (m : Machine)
    (run : (new (.new queryText)).runFrom setup actions = m) (text : Option Text) (reply : Reply) :
    let n := m.latest + 1
    let issued := m.awaiting text reply
    (∃ k, RunsNext (.wake n) .turn (issued.runFrom setup (.replicate k .turn)) ∧
      m.run setup text reply = (issued.runFrom setup (.replicate k .turn)).turn setup) ∧
    (∀ meanwhile, ∃ h : Moment setup issued (meanwhile ++ [.drain]),
      RunsNext (.wake n) h.move h.machine) ∧
    ∀ meanwhile, RunsNext (.wake n) .turn (issued.runFrom setup meanwhile) →
      let m' := (issued.runFrom setup meanwhile).turn setup
      ∃ ending, Over n ending m' ∧
        ((∀ a ∈ meanwhile, a.issues = false ∧ a.leavesOutcome = true ∧
            ∀ other, a ≠ .release n other) →
          (∀ isOpen failure fault,
            Exchange.comesTo setup.endpoint isOpen (text.getD m.state.queryText) reply =
              .error failure → describe? setup failure ≠ some (.error fault)) →
          Leaves setup text reply m meanwhile ending m') := by
  intro n issued
  have scheduled : Scheduled m := Reachable.scheduled ⟨actions, run⟩
  have scheduled' (meanwhile : List Action) : Scheduled (issued.runFrom setup meanwhile) :=
    scheduled_runFrom setup (scheduled_awaiting scheduled text reply) meanwhile
  refine ⟨run_wakes setup scheduled text reply, fun meanwhile => ?_, fun meanwhile wakes => ?_⟩
  · refine exists_wake setup scheduled ?_
    rw [runFrom_append]
    exact queue_drain setup _
  · intro m'
    obtain ⟨ending, ended⟩ := over_of_wakes setup (scheduled' meanwhile) wakes
    refine ⟨ending, ended, fun still described => ?_⟩
    let own : Call := ⟨text.getD m.state.queryText, reply,
      fun isOpen => isOpen = m.isOpen ∨ isOpen = false ∧ .closeClient ∈ meanwhile,
      .cancel n ∈ meanwhile ∨ .close ∈ meanwhile⟩
    have begun : Answers setup own n issued := answers_awaiting rfl rfl (.inl rfl)
    have answers : Answers setup own n (issued.runFrom setup meanwhile) := by
      refine begun.runFrom fun b mem => ?_
      obtain ⟨m'', a, mem', made⟩ := mem_movesOf_of_mem_moves mem
      obtain ⟨quiet, ordinary, replied⟩ := still a mem'
      rcases of_mem_movesOf quiet made with rfl | rfl | ⟨rfl, k, rfl⟩
      · exact ⟨quiet, ordinary, replied, fun same => .inl (same ▸ mem'),
          fun same => .inr ⟨rfl, same ▸ mem'⟩⟩
      · exact ⟨rfl, rfl, by simp, by simp, by simp⟩
      · exact ⟨rfl, rfl, by simp, fun _ => .inr mem', by simp⟩
    obtain ⟨outcome, may, ended', left⟩ := answers.left (scheduled' meanwhile) wakes
    obtain rfl : ending = endingOf setup outcome := ended.unique ended'
    have told : ∀ fault, endingOf setup outcome ≠ .escaped fault := by
      intro fault escaped
      rcases may with ⟨isOpen, -, came⟩ | ⟨-, rfl⟩
      · obtain ⟨failure, failed, undescribed⟩ := endingOf_eq_escaped.1 escaped
        exact described isOpen failure fault (came.symm.trans failed) undescribed
      · simp [endingOf] at escaped
    obtain ⟨shown, idle⟩ := leftBy_of_not_escaped told
    refine ⟨left ▸ shown, left ▸ idle, ?_⟩
    rcases may with ⟨isOpen, opens, rfl⟩ | ⟨stopped, rfl⟩
    · obtain ⟨alone, same⟩ := alone_leaves setup isOpen m.state.queryText text reply
      exact .inl ⟨isOpen, opens, left.trans same.symm, alone.settled⟩
    · exact .inr ⟨stopped, rfl⟩

/-- With one older submission that waits and is cancelled, two that are ready and
one whose end is still to be reported. -/
theorem call_leaves_unfinished :
    let setup : Setup := ⟨⟨[], .zero⟩, ⟨.empty, "en"⟩, none⟩
    let m := (new (.new [])).runFrom setup unfinished
    let meanwhile := Action.cancel 1 :: List.replicate 7 .turn
    let m' := ((m.awaiting (some "e") (.response 200 [0x35])).runFrom setup meanwhile).turn setup
    ∃ ending, Over 5 ending m' ∧
      Leaves setup (some "e") (.response 200 [0x35]) m meanwhile ending m' := by
  intro setup m meanwhile m'
  obtain ⟨-, -, returns⟩ :=
    call_leaves setup [] unfinished m rfl (some "e") (.response 200 [0x35])
  obtain ⟨ending, ended, leaves⟩ := returns meanwhile ⟨rfl, by decide⟩
  refine ⟨ending, ended, leaves (by simp [meanwhile, Action.issues, Action.leavesOutcome]) ?_⟩
  intro isOpen failure fault failed
  cases isOpen with
  | true => exact absurd failed (by rintro ⟨⟩)
  | false =>
    obtain rfl : Failure.crashed .clientClosed = failure := Except.error.inj failed
    rintro ⟨⟩

end Machine

end QueryConsole.Submission
