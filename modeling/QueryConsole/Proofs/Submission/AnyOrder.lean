import QueryConsole.Proofs.Submission.Awaited
import QueryConsole.Proofs.Submission.Planned
import QueryConsole.Proofs.Submission.Wire
/-!
# Replies in any order

Submissions that are all issued before the first of them is over may have
their replies in any order, and the loop may run as it likes between them: once
every reply has arrived and nothing is ready any more, what there is depends on
the plan alone (`ends_in_any_order`). The machine goes along with the plan in
every move (`Along.issuing`, `Along.arriving`), a task that has had its reply is
settled when nothing is ready (`Served.settled`), and of requests that are known
up to their order the wire keeps the order of the submissions
(`Along.wire_eq`).
-/

namespace QueryConsole

theorem Exchange.requests_cases (endpoint : Endpoint) (isOpen : Bool) (query : Text) :
    requests endpoint isOpen query = [] ∨
      ∃ request, requests endpoint isOpen query = [request] := by
  unfold requests
  split
  · exact .inl rfl
  · exact .inr ⟨_, rfl⟩

namespace Submission

namespace Machine

variable {setup : Setup} {m : Machine} {n : Nat} {a : Action} {t : Task} {reply : Reply}
  {actions : List Action}

/-! ## Tasks that are served -/

/-- All tasks are under way if as many are as there are. -/
theorem inFlight_eq_latest_iff :
    m.inFlight = m.latest ↔ ∀ n t, m.task? n = some t → t.isDone = false := by
  unfold inFlight latest
  rw [List.countP_eq_length]
  constructor
  · intro all n t ht
    cases n with
    | zero => simp at ht
    | succ i => simpa using all t (List.mem_of_getElem? ht)
  · intro all t mem
    obtain ⟨i, ht⟩ := List.mem_iff_getElem?.1 mem
    simp [all (i + 1) t ht]

/-- The task of a submission has its reply, or has no more use for it. -/
def Served (n : Nat) (m : Machine) : Prop :=
  Replied n m ∨ ∃ t, m.task? n = some t ∧ t.isDone = true

theorem served_release (ht : m.task? n = some t) : Served n (m.release n reply) := by
  unfold release
  rw [ht]
  dsimp only
  cases hp : t.phase with
  | ended _ | settled _ => exact .inr ⟨t, ht, by simp [Task.isDone, Task.ending?, hp]⟩
  | unstarted | resuming =>
    exact .inl ⟨_, by rw [task?_update, if_pos rfl, ht, Option.map_some], rfl⟩
  | waiting =>
    exact .inl ⟨_, by rw [task?_enqueue, task?_update, if_pos rfl, ht, Option.map_some], rfl⟩

theorem Served.runFrom (h : Served n m) (scheduled : Scheduled m) (actions : List Action) :
    Served n (m.runFrom setup actions) := by
  rcases h with replied | ⟨t, ht, done⟩
  · exact .inl (replied_runFrom scheduled replied actions)
  · obtain ⟨t', ht', becomes⟩ := task_of_runFrom setup actions ht
    exact .inr ⟨t', ht', becomes.isDone done⟩

/-- **With nothing ready its end has been reported.** -/
theorem Served.settled (h : Served n m) (scheduled : Scheduled m) (empty : m.queue = []) :
    ∃ t ending, m.task? n = some t ∧ t.phase = .settled ending := by
  rcases h with replied | ⟨t, ht, done⟩
  · exact replied.settled scheduled empty
  · rcases scheduled.at_rest empty ht with ⟨waiting, -⟩ | ⟨ending, settled⟩
    · simp [Task.isDone, Task.ending?, waiting] at done
    · exact ⟨t, ending, ht, settled⟩

/-- In a run that begins before all submissions the order holds. -/
theorem Reachable.inOrder {queryText : Text} (h : Reachable setup queryText m) :
    ∃ s, InOrder s m := by
  obtain ⟨actions, rfl⟩ := h
  exact runFrom_of_kept (P := fun m => ∃ s, InOrder s m)
    (fun _ _ single ⟨_, order⟩ => order.perform single) ⟨0, inOrder_new _⟩ actions

theorem Reachable.runFrom {queryText : Text} (h : Reachable setup queryText m)
    (actions : List Action) : Reachable setup queryText (m.runFrom setup actions) := by
  obtain ⟨before, rfl⟩ := h
  exact ⟨before ++ actions, runFrom_append before actions⟩

end Machine

open Machine

namespace Plan

/-! ## Schedules -/

/-- **Issuing what is planned** after the first `n` submissions. The loop may
run meanwhile. -/
inductive Issues (p : Plan) : Nat → List Action → Prop
  | done : Issues p p.count []
  | turn {n : Nat} {rest : List Action} : Issues p n rest → Issues p n (.turn :: rest)
  | submit {n : Nat} {rest : List Action} : Issues p (n + 1) rest →
      Issues p n (.submit (p.text (n + 1)) none :: rest)

/-- **The arrival of the replies** in an order. The loop may run meanwhile. -/
inductive Arrives (p : Plan) : List Nat → List Action → Prop
  | done : Arrives p [] []
  | turn {order : List Nat} {rest : List Action} : Arrives p order rest →
      Arrives p order (.turn :: rest)
  | reply {n : Nat} {order : List Nat} {rest : List Action} : Arrives p order rest →
      Arrives p (n :: order) (.release n (p.reply n) :: rest)

/-- **What a plan ends in**, whatever the schedule: nothing is under way, the
state is left by the last exchange, each task ended the way its own did, the
requests have left in their order, and of each submission everything is logged
once, with what belongs to its end in one piece. -/
structure Ends (p : Plan) (m : Machine) : Prop where
  latest : m.latest = p.count
  inFlight : m.inFlight = 0
  state : m.state =
    ⟨p.queryText, if p.count = 0 then .idle else leftBy p.setup (p.outcome p.count)⟩
  settled : ∀ n, 0 < n → n ≤ p.count →
    ∃ t, m.task? n = some t ∧ t.phase = .settled (endingOf p.setup (p.outcome n))
  wire : m.wire = (List.range' 1 p.count).flatMap fun n => (p.requests n).map (Sent.mk n)
  log : m.log.Perm ((List.range' 1 p.count).flatMap p.transcript)
  closed : ∀ n, 0 < n → n ≤ p.count → p.ending n <:+: m.log

/-- **A plan that nothing disturbs**: no reply is a cancellation, and every
failure can be described. -/
structure Undisturbed (p : Plan) : Prop where
  replied : ∀ n, 0 < n → n ≤ p.count → ∀ message, p.reply n ≠ .raised (.cancelled message)
  described : ∀ n, 0 < n → n ≤ p.count → ∀ failure fault, p.outcome n = .error failure →
    describe? p.setup failure ≠ some (.error fault)

variable {p : Plan} {m : Machine} {n : Nat} {actions : List Action} {order : List Nat}

/-- Of such a plan every task ends by itself, and logs its verdict and, unless
it is the last, that its outcome was dropped. -/
theorem Undisturbed.ends (h : p.Undisturbed) (positive : 0 < n) (planned : n ≤ p.count) :
    endingOf p.setup (p.outcome n) = .completed ∧
      p.ending n = verdict n (p.outcome n) ::
        if n = p.count then [] else [.superseded n p.count] := by
  have own (fault : Catalog.Fault) : endingOf p.setup (p.outcome n) ≠ .escaped fault := by
    intro escaped
    obtain ⟨failure, failed, undescribed⟩ := endingOf_eq_escaped.1 escaped
    exact h.described n positive planned failure fault failed undescribed
  have kept (message : Option Text) : endingOf p.setup (p.outcome n) ≠ .cancelled message := by
    intro cancelled
    exact h.replied n positive planned message
      (Exchange.cancelled_of_comesTo (endingOf_eq_cancelled.1 cancelled))
  refine ⟨?_, ?_⟩
  · cases ends : endingOf p.setup (p.outcome n) with
    | completed => rfl
    | cancelled message => exact absurd ends (kept message)
    | escaped fault => exact absurd ends (own fault)
  · have uncancelled : verdict n (p.outcome n) ≠ .cancelled n := by
      rw [Ne, verdict_eq_cancelled_iff p.setup]
      exact fun ⟨message, cancelled⟩ => kept message cancelled
    rw [ending, closing_eq own, if_neg uncancelled]
    rfl

/-! ## Issuing -/

theorem Issues.le (h : p.Issues n actions) : n ≤ p.count := by
  induction h with
  | done => exact Nat.le_refl _
  | turn _ ih => exact ih
  | submit _ ih => omega

theorem Issues.latest (h : p.Issues n actions) (latest : m.latest = n) :
    (m.runFrom p.setup actions).latest = p.count := by
  induction h generalizing m with
  | done => exact latest
  | turn _ ih => exact ih (latest_turn.trans latest)
  | submit _ ih => exact ih ((latest_submit _ _).trans (by rw [latest]))

/-- **Issuing goes along with the plan** if no task has ended when all are
issued, since then none ended meanwhile. -/
theorem Along.issuing (h : p.Along m) (issues : p.Issues n actions) (latest : m.latest = n)
    (under : ∀ k t, (m.runFrom p.setup actions).task? k = some t → t.isDone = false) :
    p.Along (m.runFrom p.setup actions) := by
  induction issues generalizing m with
  | done => exact h
  | submit _ ih =>
    subst latest
    exact ih h.submit (latest_submit _ _) under
  | @turn n rest _ ih =>
    refine ih (h.turn (.inr fun k t ht => ?_)) (latest_turn.trans latest) under
    -- a task that has ended by now has ended when all are issued
    obtain ⟨t', ht', becomes⟩ := task_of_runFrom p.setup rest ht
    cases done : t.isDone with
    | false => rfl
    | true => exact (becomes.isDone done).symm.trans (under k t' ht')

/-- No reply has arrived, and no task has ended. -/
def Unanswered (m : Machine) : Prop :=
  ∀ n t, m.task? n = some t → t.reply = none ∧ t.isDone = false

theorem Unanswered.submit (h : Unanswered m) (text : Option Text) :
    Unanswered (m.submit text none) := by
  intro k t ht
  rw [task?_submit] at ht
  split at ht
  · obtain rfl := Option.some.inj ht
    exact ⟨rfl, rfl⟩
  · exact h k t ht

/-- It is so if it is of the task that a job is about. -/
theorem Unanswered.of_others {m' : Machine} (h : Unanswered m)
    (others : ∀ k, k ≠ n → m'.task? k = m.task? k)
    (own : ∀ t, m'.task? n = some t → t.reply = none ∧ t.isDone = false) : Unanswered m' := by
  intro k t ht
  by_cases same : k = n
  · subst same
    exact own t ht
  · rw [others k same] at ht
    exact h k t ht

/-- There is no end to report. -/
theorem Unanswered.settle (h : Unanswered m) (n : Nat) : Unanswered (m.settle n) := by
  refine h.of_others (fun k other => task?_settle_of_ne other) fun t ht => ?_
  cases hu : m.task? n with
  | none =>
    rw [Machine.settle, hu] at ht
    exact h n t ht
  | some u =>
    have under : ∀ ending, u.phase ≠ .ended ending := by
      intro ending ended
      have open' := (h n u hu).2
      simp [Task.isDone, Task.ending?, ended] at open'
    rw [settle_of_not_ended hu under] at ht
    exact h n t ht

/-- **Where its request leaves, no task ends without its reply.** -/
theorem Unanswered.step (h : Unanswered m) (along : p.Along m)
    (leaves : ∀ t, m.task? n = some t → p.requests n ≠ []) :
    Unanswered (m.step p.setup n) := by
  refine h.of_others (fun k other => task?_step_of_ne other) fun t ht => ?_
  cases hu : m.task? n with
  | none =>
    rw [Machine.step, hu] at ht
    exact h n t ht
  | some u =>
    have none := (h n u hu).1
    cases along.goes hu with
    | idle _ _ same =>
      rw [same] at ht
      exact h n t ht
    | waits _ _ _ advances _ =>
      rw [advances.task, hu] at ht
      obtain rfl := Option.some.inj ht
      exact ⟨none, rfl⟩
    | answered _ unsent _ => exact absurd (unsent none) (leaves u hu)
    | resumed resuming _ =>
      have replied := (along.task n u hu).replied resuming
      simp [none] at replied

theorem Unanswered.turn (h : Unanswered m) (along : p.Along m)
    (leaves : ∀ n t, m.task? n = some t → p.requests n ≠ []) : Unanswered (m.turn p.setup) := by
  have popped : Unanswered m.popped := fun k t ht => h k t (task?_popped.symm.trans ht)
  rcases turn_eq p.setup m with idle | ⟨job, -, run⟩
  · rwa [idle]
  · rw [run]
    cases job with
    | step n => exact popped.step along.popped fun t ht => leaves n t (task?_popped.symm.trans ht)
    | settle n => exact popped.settle n
    | wake n => exact popped

/-- **Nothing is over when all have been issued**, if the loop does not run
meanwhile or every request leaves. -/
theorem Unanswered.issuing (h : Unanswered m) (along : p.Along m) (issues : p.Issues n actions)
    (latest : m.latest = n)
    (calm : (∀ a ∈ actions, a.issues = true) ∨ ∀ k, 0 < k → k ≤ p.count → p.requests k ≠ []) :
    Unanswered (m.runFrom p.setup actions) := by
  induction issues generalizing m with
  | done => exact h
  | submit _ ih =>
    subst latest
    exact ih (h.submit _) along.submit (latest_submit _ _)
      (calm.imp_left fun all a mem => all a (List.mem_cons_of_mem _ mem))
  | turn rest ih =>
    rcases calm with all | leaves
    · simp [Action.issues] at all
    · have turned : Unanswered (m.turn p.setup) := by
        refine h.turn along fun k t ht => ?_
        have issued := task?_isSome.1 (Option.isSome_iff_exists.2 ⟨t, ht⟩)
        have planned := rest.le
        exact leaves k issued.1 (by omega)
      exact ih turned (along.turn (.inr fun k t ht => (turned k t ht).2))
        (latest_turn.trans latest) (.inr leaves)

/-! ## Arriving -/

/-- **The arrival of the replies goes along with the plan.** -/
theorem Along.arriving (h : p.Along m) (arrives : p.Arrives order actions)
    (latest : m.latest = p.count) :
    p.Along (m.runFrom p.setup actions) ∧ (m.runFrom p.setup actions).latest = p.count := by
  induction arrives generalizing m with
  | done => exact ⟨h, latest⟩
  | turn _ ih => exact ih (h.turn (.inl latest)) (latest_turn.trans latest)
  | @reply n order rest _ ih => exact ih (h.release n) ((latest_release _).trans latest)

/-- **And serves every task** whose reply arrives. -/
theorem Arrives.served (h : p.Arrives order actions) (scheduled : Scheduled m) (mem : n ∈ order)
    (issued : ∃ t, m.task? n = some t) : Served n (m.runFrom p.setup actions) := by
  have kept {m : Machine} (a : Action) (single : a.isMove = true)
      (issued : ∃ t, m.task? n = some t) : ∃ t, (m.perform p.setup a).task? n = some t := by
    obtain ⟨t, ht⟩ := issued
    obtain ⟨t', ht', -⟩ := task_of_perform p.setup single ht
    exact ⟨t', ht'⟩
  induction h generalizing m with
  | done => simp at mem
  | turn _ ih => exact ih (scheduled.perform (a := .turn) rfl) mem (kept .turn rfl issued)
  | @reply k order rest _ ih =>
    have scheduled' : Scheduled (m.perform p.setup (.release k (p.reply k))) :=
      scheduled.perform rfl
    rcases List.mem_cons.1 mem with rfl | mem
    · obtain ⟨t, ht⟩ := issued
      exact (served_release ht).runFrom scheduled' rest
    · exact ih scheduled' mem (kept (.release k (p.reply k)) rfl issued)

/-! ## At rest -/

/-- **Of requests that are known up to their order the wire keeps the order of
the submissions.** -/
theorem Along.wire_eq (h : p.Along m) {s : Nat} (inOrder : InOrder s m) :
    m.wire = m.gather p.sent := by
  have distinct {r r' : Sent} (before : r.sequence < r'.sequence)
      (after : r'.sequence < r.sequence) : r = r' := by omega
  -- both sides hold the same requests, and in both their numbers go up
  refine h.wire.eq_of_pairwise (fun r r' _ _ => distinct) (List.pairwise_map.1 inOrder.sorted) ?_
  have own (n : Nat) : ∀ r ∈ (m.task? n).elim [] (p.sent n), r.sequence = n := by
    intro r mem
    cases ht : m.task? n with
    | none => simp [ht] at mem
    | some t =>
      rw [ht, Option.elim_some, Plan.sent] at mem
      split at mem
      · simp at mem
      · obtain ⟨request, -, rfl⟩ := List.mem_map.1 mem
        rfl
  rw [gather, List.pairwise_flatMap]
  refine ⟨fun n _ => ?_, ?_⟩
  · cases ht : m.task? n with
    | none => exact .nil
    | some t =>
      rw [Option.elim_some, Plan.sent]
      split
      · exact .nil
      · rcases Exchange.requests_cases p.setup.endpoint p.isOpen (p.query n) with none | ⟨_, one⟩
        · rw [Plan.requests, none]
          exact .nil
        · rw [Plan.requests, one]
          exact List.pairwise_singleton _ _
  · have increasing : (List.range' 1 m.latest).Pairwise (· < ·) := List.pairwise_lt_range'
    refine increasing.imp fun before r mem r' mem' => ?_
    rw [own _ r mem, own _ r' mem']
    exact before

/-- **Where all are settled, the plan has come to its end.** -/
theorem Along.ends (h : p.Along m) {s : Nat} (inOrder : InOrder s m) (latest : m.latest = p.count)
    (settled : ∀ n, 0 < n → n ≤ p.count →
      ∃ t ending, m.task? n = some t ∧ t.phase = .settled ending) : p.Ends m := by
  have own : ∀ n, 0 < n → n ≤ p.count →
      ∃ t, m.task? n = some t ∧ t.phase = .settled (endingOf p.setup (p.outcome n)) := by
    intro n positive planned
    obtain ⟨t, ending, ht, hp⟩ := settled n positive planned
    have fits := (h.task n t ht).ending ending (by rw [Task.ending?, hp])
    exact ⟨t, ht, fits ▸ hp⟩
  have gathered {α : Type} {of : Nat → Task → List α} {all : Nat → List α}
      (same : ∀ n t ending, t.phase = .settled ending → of n t = all n) :
      m.gather of = (List.range' 1 p.count).flatMap all := by
    rw [gather, latest]
    refine List.flatMap_congr fun n mem => ?_
    rw [List.mem_range'_1] at mem
    obtain ⟨t, ht, hp⟩ := own n (by omega) (by omega)
    rw [ht, Option.elim_some, same n t _ hp]
  refine ⟨latest, ?_, ?_, own, ?_, ?_, fun n positive planned => ?_⟩
  · rw [inFlight_eq, List.length_eq_zero_iff, List.eq_nil_iff_forall_not_mem]
    intro n mem
    obtain ⟨t, ht, under⟩ := mem_pending.1 mem
    have issued := task?_isSome.1 (Option.isSome_iff_exists.2 ⟨t, ht⟩)
    obtain ⟨u, hu, hp⟩ := own n issued.1 (latest ▸ issued.2)
    obtain rfl : t = u := Option.some.inj (ht.symm.trans hu)
    simp [Task.isDone, Task.ending?, hp] at under
  · have outcome : m.state.outcome =
        if p.count = 0 then .idle else leftBy p.setup (p.outcome p.count) := by
      rw [h.outcome, latest]
      split
      · next none => rw [none, task?_zero, Option.elim_none]
      · next some =>
        obtain ⟨t, ht, hp⟩ := own p.count (by omega) (Nat.le_refl _)
        rw [ht, Option.elim_some, shows, hp]
    rw [← outcome, ← h.queryText]
  · rw [h.wire_eq inOrder]
    exact gathered fun n t _ hp => by rw [Plan.sent, hp]
  · refine h.log.trans (.of_eq (gathered fun n t _ hp => ?_))
    rw [told, hp]
  · obtain ⟨t, ht, hp⟩ := own n positive planned
    exact h.closed n t ht (by simp [Task.isDone, Task.ending?, hp])

/-- **Replies may come in any order.** However many submissions are issued,
with any texts and replies and over an open or a closed client: if none is over
before the last is issued, as it is where the loop does not run meanwhile or
every request leaves, then in whichever order the replies arrive, and wherever
the loop runs between them, with nothing ready any more there is what the plan
ends in, of which nothing tells the schedule. If no reply is a cancellation and
every failure can be described, each task has ended by itself, and its verdict
is logged and right after it, for all but the last, that the outcome was
dropped. -/
theorem ends_in_any_order (p : Plan) (issuing : List Action) (issues : p.Issues 0 issuing) :
    let issued := p.start.runFrom p.setup issuing
    (((∀ a ∈ issuing, a.issues = true) ∨ ∀ n, 0 < n → n ≤ p.count → p.requests n ≠ []) →
      issued.inFlight = p.count) ∧
    (issued.inFlight = p.count → ∀ (order : List Nat) (arriving : List Action),
      order.Perm (List.range' 1 p.count) → p.Arrives order arriving →
      let m := issued.runFrom p.setup arriving
      m.queue = [] → p.Ends m ∧ (p.Undisturbed → ∀ n, 0 < n → n ≤ p.count →
        (∃ t, m.task? n = some t ∧ t.phase = .settled .completed) ∧
        (verdict n (p.outcome n) :: if n = p.count then [] else [.superseded n p.count]) <:+:
          m.log)) := by
  intro issued
  have count : issued.latest = p.count := issues.latest rfl
  refine ⟨fun calm => ?_, fun together order arriving perm arrives => ?_⟩
  · have fresh : Unanswered p.start := fun n t ht => by simp [task?_start] at ht
    rw [← count, inFlight_eq_latest_iff]
    exact fun n t ht => (fresh.issuing (along_start p) issues rfl calm n t ht).2
  · intro m empty
    rw [← count, inFlight_eq_latest_iff] at together
    have reachable : Reachable p.setup p.queryText issued :=
      (reachable_new p.setup p.isOpen p.queryText).runFrom issuing
    obtain ⟨along, latest⟩ := ((along_start p).issuing issues rfl together).arriving arrives count
    obtain ⟨s, inOrder⟩ := (reachable.runFrom arriving).inOrder
    have ends : p.Ends m := by
      refine along.ends inOrder latest fun n positive planned => ?_
      have replied : n ∈ order := by
        rw [perm.mem_iff, List.mem_range'_1]
        omega
      have known := Option.isSome_iff_exists.1 (task?_isSome.2 ⟨positive, count ▸ planned⟩)
      exact (arrives.served reachable.scheduled replied known).settled
        (reachable.runFrom arriving).scheduled empty
    refine ⟨ends, fun undisturbed n positive planned => ?_⟩
    obtain ⟨completed, closes⟩ := undisturbed.ends positive planned
    refine ⟨?_, closes ▸ ends.closed n positive planned⟩
    rw [← completed]
    exact ends.settled n positive planned

/-- Three submissions, of which the first waits when the others are issued and
the second fails. The replies come from the last to the first, that for the last
before its task has started. -/
theorem ends_in_any_order_reversed :
    let p : Plan :=
      { setup := ⟨⟨[], .zero⟩, ⟨.empty, "en"⟩, none⟩
        isOpen := true
        queryText := "a"
        count := 3
        text := fun n => if n = 2 then some "b" else none
        reply := fun n => if n = 2 then .response 500 [] else .response 200 [0x31] }
    let issued := p.start.runFrom p.setup
      [.submit none none, .turn, .submit (some "b") none, .submit none none]
    let m := issued.runFrom p.setup
      ([.release 3 (.response 200 [0x31]), .turn, .release 2 (.response 500 []),
        .release 1 (.response 200 [0x31])] ++ List.replicate 6 .turn)
    issued.inFlight = 3 ∧ m.queue = [] ∧ p.Ends m ∧
      [.succeeded 1, .superseded 1 3] <:+: m.log := by
  intro p issued m
  obtain ⟨calm, ends⟩ := ends_in_any_order p
    [.submit none none, .turn, .submit (some "b") none, .submit none none]
    (.submit (.turn (.submit (.submit .done))))
  have known {n : Nat} (positive : 0 < n) (planned : n ≤ p.count) : n = 1 ∨ n = 2 ∨ n = 3 := by
    have : p.count = 3 := rfl
    omega
  have together : issued.inFlight = 3 := calm (.inr fun n positive planned => by
    rcases known positive planned with rfl | rfl | rfl <;> decide)
  have undisturbed : p.Undisturbed := by
    refine ⟨fun n positive planned message => ?_, fun n positive planned failure fault failed => ?_⟩
    · rcases known positive planned with rfl | rfl | rfl <;> rintro ⟨⟩
    · rcases known positive planned with rfl | rfl | rfl
      · cases failed
      · obtain rfl : Failure.refused (.httpStatus 500) = failure := Except.error.inj failed
        rintro ⟨⟩
      · cases failed
  have empty : m.queue = [] := by decide
  obtain ⟨ended, logged⟩ := ends together [3, 2, 1] _ (by decide)
    (.reply (.turn (.reply (.reply (.turn (.turn (.turn (.turn (.turn (.turn .done)))))))))) empty
  obtain ⟨-, told⟩ := logged undisturbed 1 (by decide) (by decide)
  exact ⟨together, empty, ended, told⟩

end Plan

end Submission

end QueryConsole
