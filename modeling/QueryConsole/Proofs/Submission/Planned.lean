import Mathlib.Data.List.Nodup
import QueryConsole.Proofs.Submission.Exchanged
import QueryConsole.Proofs.Submission.Register
/-!
# Submissions that go as planned

A `Plan` says what is submitted and which reply is meant for each submission.
How far a task has come then tells everything it has done: what it has logged
and sent, and what the state shows if it is the latest (`told`, `sent`,
`shows`). A machine goes along with the plan if its log and its wire are what
its tasks have done, in some order (`Plan.Along`), and it does so whatever
the order is in which the tasks are taken forward (`Along.forward`): that is the
one step that submissions, replies and turns of the loop are made of. Where a
task ends, all must have been issued, since what it logs says how many there
are.
-/

namespace QueryConsole

/-- A request has left if there is one. -/
theorem Exchange.exists_request {endpoint : Endpoint} {isOpen : Bool} {query : Text}
    (some : requests endpoint isOpen query ≠ []) :
    ∃ request, (send endpoint isOpen query).outcome = .ok request ∧
      requests endpoint isOpen query = [request] := by
  unfold requests at some ⊢
  cases sent : (send endpoint isOpen query).outcome with
  | error failure => simp [sent] at some
  | ok request => exact ⟨request, rfl, rfl⟩

namespace Submission

/-! ## What the tasks have done -/

namespace Machine

variable {α : Type} {m m' : Machine} {n : Nat} {t : Task} {of : Nat → Task → List α}

/-- What there is of the tasks, one after another. -/
def gather (of : Nat → Task → List α) (m : Machine) : List α :=
  (List.range' 1 m.latest).flatMap fun n => (m.task? n).elim [] (of n)

/-- A new task comes last. -/
theorem gather_submit (of : Nat → Task → List α) (text : Option Text) (reply : Option Reply) :
    (m.submit text reply).gather of = m.gather of ++
      of (m.latest + 1) (Task.new (text.getD m.state.queryText) reply) := by
  have older : ∀ n ∈ List.range' 1 m.latest,
      ((m.submit text reply).task? n).elim [] (of n) = (m.task? n).elim [] (of n) := by
    intro n mem
    rw [List.mem_range'_1] at mem
    rw [task?_submit, if_neg (by omega)]
  rw [gather, latest_submit, List.range'_concat, List.flatMap_append, List.flatMap_congr older,
    List.flatMap_singleton, Nat.one_mul, Nat.add_comm 1, task?_submit, if_pos rfl]
  rfl

/-- The report of an end leaves the text of the query. -/
theorem queryText_settle : (m.settle n).state.queryText = m.state.queryText := by
  have cases := settled n m
  generalize m.settle n = m' at cases
  cases cases with
  | idle _ => rfl
  | reported _ _ _ => rw [state_update]
  | reset _ _ _ _ => rfl

/-- **What a task adds is added**, wherever it stands. -/
theorem gather_of_advances {change : Task → Task} {events : List Event} {sent : List Request}
    (h : Advances n change events sent m m') (ht : m.task? n = some t) {added : List α}
    (own : of n (change t) = of n t ++ added) : (m'.gather of).Perm (m.gather of ++ added) := by
  have others (l : List Nat) (absent : n ∉ l) :
      (l.flatMap fun k => (m'.task? k).elim [] (of k)) =
        l.flatMap fun k => (m.task? k).elim [] (of k) :=
    List.flatMap_congr fun k mem => by rw [h.others k fun same => absent (same ▸ mem)]
  obtain ⟨before, after, range⟩ := List.append_of_mem (mem_range'_of_task ht)
  have distinct : (before ++ n :: after).Nodup := range ▸ List.nodup_range' 1
  have absent : n ∉ before ∧ n ∉ after := by
    rw [List.nodup_middle, List.nodup_cons, List.mem_append, not_or] at distinct
    exact distinct.1
  unfold gather
  rw [h.latest, range, List.flatMap_append, List.flatMap_append, List.flatMap_cons,
    List.flatMap_cons, others before absent.1, others after absent.2, h.task, ht, Option.map_some,
    Option.elim_some, Option.elim_some, own]
  simp only [List.append_assoc]
  -- what is added stands before what there is of later tasks, and goes behind it
  exact (List.perm_append_comm.append_left _).append_left _

end Machine

/-! ## Plans -/

/-- **A plan**: what is submitted, one after another, and which reply is meant
for each submission. -/
structure Plan where
  setup : Setup
  isOpen : Bool
  queryText : Text
  count : Nat
  text : Nat → Option Text
  reply : Nat → Reply

namespace Plan

variable (p : Plan)

/-- The machine before the first submission. -/
def start : Machine := { Machine.new (.new p.queryText) with isOpen := p.isOpen }

/-- What is asked by a submission. -/
def query (n : Nat) : Text := (p.text n).getD p.queryText

/-- The requests that leave. -/
def requests (n : Nat) : List Request :=
  Exchange.requests p.setup.endpoint p.isOpen (p.query n)

/-- What its exchange comes to. -/
def outcome (n : Nat) : Except Failure Json :=
  Exchange.comesTo p.setup.endpoint p.isOpen (p.query n) (p.reply n)

/-- What is logged of the request. -/
def asking (n : Nat) : List Event :=
  (Exchange.send p.setup.endpoint p.isOpen (p.query n)).events

/-- What is logged of the reply. -/
def answering (n : Nat) : List Event :=
  Exchange.answered p.setup.endpoint p.isOpen (p.query n) (p.reply n)

/-- What is logged when the exchange is over and all have been issued. -/
def ending (n : Nat) : List Event := closing p.setup n p.count (p.outcome n)

/-- **All that is logged of a submission.** -/
def transcript (n : Nat) : List Event :=
  .started n (p.query n).length :: (p.asking n ++ (p.answering n ++ p.ending n))

/-- What a task has logged. -/
def told (n : Nat) (t : Task) : List Event :=
  match t.phase with
  | .unstarted => [.started n (p.query n).length]
  | .waiting => .started n (p.query n).length :: p.asking n
  | .resuming => .started n (p.query n).length :: p.asking n
  | .ended _ => p.transcript n
  | .settled _ => p.transcript n

/-- What it has sent. -/
def sent (n : Nat) (t : Task) : List Sent :=
  match t.phase with
  | .unstarted => []
  | _ => (p.requests n).map (Sent.mk n)

/-- What the state shows if it is the latest. -/
def shows (n : Nat) (t : Task) : Query.Outcome :=
  match t.phase with
  | .ended _ => (shown? p.setup (p.outcome n)).getD .loading
  | .settled _ => leftBy p.setup (p.outcome n)
  | _ => .loading

/-- **A task that goes as planned**: it asks what is to be asked, nobody
cancels it, it waits only where a request has left, and it goes on, and ends,
with the reply that is meant for it. -/
structure Fits (n : Nat) (t : Task) : Prop where
  query : t.query = p.query n
  kept : t.cancelRequested = false
  reply : t.reply = none ∨ t.reply = some (p.reply n)
  requested : t.phase = .waiting ∨ t.phase = .resuming → p.requests n ≠ []
  replied : t.phase = .resuming → t.reply = some (p.reply n)
  ending : ∀ ending, t.ending? = some ending → ending = endingOf p.setup (p.outcome n)

/-- **A machine that goes along with a plan.** -/
structure Along (m : Machine) : Prop where
  isOpen : m.isOpen = p.isOpen
  queryText : m.state.queryText = p.queryText
  task : ∀ n t, m.task? n = some t → p.Fits n t
  outcome : m.state.outcome = (m.task? m.latest).elim .idle (p.shows m.latest)
  log : m.log.Perm (m.gather p.told)
  wire : m.wire.Perm (m.gather p.sent)
  closed : ∀ n t, m.task? n = some t → t.isDone = true → p.ending n <:+: m.log

variable {p} {m m' : Machine} {n : Nat} {t : Task} {change : Task → Task} {events : List Event}
  {sent : List Request}

theorem task?_start : p.start.task? n = none :=
  Machine.task?_eq_none.2 (Nat.eq_zero_or_pos n)

theorem along_start (p : Plan) : p.Along p.start where
  isOpen := rfl
  queryText := rfl
  task n t ht := by simp [task?_start] at ht
  outcome := rfl
  log := .nil
  wire := .nil
  closed n t ht := by simp [task?_start] at ht

namespace Along

/-- The queue does not matter. -/
theorem popped (h : p.Along m) : p.Along m.popped where
  isOpen := h.isOpen
  queryText := h.queryText
  task n t ht := h.task n t (Machine.task?_popped.symm.trans ht)
  outcome := by
    rw [Machine.latest_popped, Machine.task?_popped]
    exact h.outcome
  log := by
    have same : m.popped.gather p.told = m.gather p.told := rfl
    rw [same]
    exact h.log
  wire := h.wire
  closed n t ht := h.closed n t (Machine.task?_popped.symm.trans ht)

/-- What the state shows is what the latest task tells. -/
theorem shown (h : p.Along m) (ht : m.task? n = some t) (latest : n = m.latest) :
    m.state.outcome = p.shows n t := by
  rw [h.outcome, ← latest, ht]
  rfl

/-- **A task that is taken forward** as the plan tells leaves the machine along
with it. -/
theorem forward (h : p.Along m) (ht : m.task? n = some t)
    (advances : Machine.Advances n change events sent m m') (fits : p.Fits n (change t))
    (told : p.told n (change t) = p.told n t ++ events)
    (sends : p.sent n (change t) = p.sent n t ++ sent.map (Sent.mk n))
    (closed : (change t).isDone = true → p.ending n <:+: m'.log)
    (queryText : m'.state.queryText = m.state.queryText)
    (outcome : m'.state.outcome =
      if n = m.latest then p.shows n (change t) else m.state.outcome) : p.Along m' where
  isOpen := advances.isOpen.trans h.isOpen
  queryText := queryText.trans h.queryText
  task k u hu := by
    by_cases own : k = n
    · subst own
      rw [advances.task, ht] at hu
      obtain rfl := Option.some.inj hu
      exact fits
    · rw [advances.others k own] at hu
      exact h.task k u hu
  outcome := by
    rw [outcome, advances.latest]
    split
    · next latest =>
      rw [← latest, advances.task, ht]
      rfl
    · next older =>
      rw [advances.others _ (Ne.symm older)]
      exact h.outcome
  log := by
    rw [advances.log]
    exact (h.log.append_right _).trans (Machine.gather_of_advances advances ht told).symm
  wire := by
    rw [advances.wire]
    exact (h.wire.append_right _).trans (Machine.gather_of_advances advances ht sends).symm
  closed k u hu done := by
    by_cases own : k = n
    · subst own
      rw [advances.task, ht] at hu
      obtain rfl := Option.some.inj hu
      exact closed done
    · rw [advances.others k own] at hu
      rw [advances.log]
      exact (h.closed k u hu done).trans (List.prefix_append _ _).isInfix

/-- A task on which something is noted, or that is made ready, has done what
it had done. -/
theorem noted (h : p.Along m) (ht : m.task? n = some t)
    (advances : Machine.Advances n change [] [] m m') (fits : p.Fits n (change t))
    (told : p.told n (change t) = p.told n t) (sends : p.sent n (change t) = p.sent n t)
    (shows : p.shows n (change t) = p.shows n t) (under : (change t).isDone = false)
    (state : m'.state = m.state) : p.Along m' := by
  refine h.forward ht advances fits ?_ ?_ (by simp [under]) (by rw [state]) ?_
  · rw [told, List.append_nil]
  · rw [sends, List.map_nil, List.append_nil]
  · rw [state, shows]
    split
    · next latest => exact h.shown ht latest
    · rfl

/-! ## Moves -/

/-- **The next submission** of the plan. -/
theorem submit (h : p.Along m) : p.Along (m.submit (p.text (m.latest + 1)) none) where
  isOpen := h.isOpen
  queryText := h.queryText
  task k u hu := by
    rw [Machine.task?_submit] at hu
    split at hu
    · next latest =>
      obtain rfl := Option.some.inj hu
      refine ⟨?_, rfl, .inl rfl, by simp [Task.new], by simp [Task.new], ?_⟩
      · rw [latest, Plan.query, ← h.queryText]
        rfl
      · simp [Task.ending?, Task.new]
    · exact h.task k u hu
  outcome := by
    rw [Machine.latest_submit, Machine.task?_submit, if_pos rfl]
    rfl
  log := by
    rw [Machine.log_submit, Machine.gather_submit, h.queryText]
    exact h.log.append_right _
  wire := by
    rw [Machine.wire_submit, Machine.gather_submit]
    exact (List.append_nil _).symm ▸ h.wire
  closed k u hu done := by
    rw [Machine.task?_submit] at hu
    split at hu
    · obtain rfl := Option.some.inj hu
      simp [Task.isDone, Task.ending?, Task.new] at done
    · rw [Machine.log_submit]
      exact (h.closed k u hu done).trans (List.prefix_append _ _).isInfix

/-- **A reply that is meant for a submission.** -/
theorem release (h : p.Along m) (n : Nat) : p.Along (m.release n (p.reply n)) := by
  unfold Machine.release
  cases ht : m.task? n with
  | none => exact h
  | some t =>
    have fits := h.task n t ht
    dsimp only
    cases hp : t.phase with
    | ended _ | settled _ => exact h
    | unstarted | resuming =>
      refine h.noted ht (Machine.advances_update n _ m)
        { fits with reply := .inr rfl, replied := fun _ => rfl } rfl rfl rfl ?_
        (Machine.state_update _)
      simp [Task.isDone, Task.ending?, hp]
    | waiting =>
      have advances := Machine.advances_update n
        (fun t => { t with reply := some (p.reply n), phase := .resuming }) m
      have readied : Machine.Advances n
          (fun t => { t with reply := some (p.reply n), phase := .resuming }) [] [] m
          ((m.update n _).enqueue (.step n)) :=
        { advances with
          task := by rw [Machine.task?_enqueue, advances.task]
          others := fun k other => by rw [Machine.task?_enqueue, advances.others k other] }
      refine h.noted ht readied ?_ ?_ ?_ ?_ rfl (Machine.state_update _)
      · exact ⟨fits.query, fits.kept, .inr rfl, fun _ => fits.requested (.inl hp), fun _ => rfl,
          by simp [Task.ending?]⟩
      · simp [told, hp]
      · simp [Plan.sent, hp]
      · simp [Plan.shows, hp]

/-- **The report of an end.** -/
theorem settle (h : p.Along m) (n : Nat) : p.Along (m.settle n) := by
  cases ht : m.task? n with
  | none =>
    have same : m.settle n = m := by rw [Machine.settle, ht]
    rwa [same]
  | some t =>
    cases hp : t.phase with
    | unstarted | waiting | resuming | settled _ =>
      rwa [Machine.settle_of_not_ended ht (by simp [hp])]
    | ended ending =>
      have fits := h.task n t ht
      have done : t.isDone = true := by simp [Task.isDone, Task.ending?, hp]
      have own : ending = endingOf p.setup (p.outcome n) :=
        fits.ending ending (by simp [Task.ending?, hp])
      refine h.forward ht (Machine.advances_settle ht hp) ?_ ?_ ?_ (fun _ => ?_) ?_ ?_
      · exact ⟨fits.query, fits.kept, fits.reply, by simp, by simp,
          by simpa [Task.ending?] using own⟩
      · simp [told, hp]
      · simp [Plan.sent, hp]
      · rw [Machine.log_settle]
        exact h.closed n t ht done
      · exact Machine.queryText_settle
      · split
        · next latest =>
          refine Machine.outcome_settle ht (own ▸ hp) latest ?_
          rw [h.shown ht latest, shows, hp]
        · next older =>
          rw [Machine.state_settle older]

/-! ## Steps -/

/-- **What a step comes to** where all goes as planned. -/
inductive Goes (p : Plan) (n : Nat) (t : Task) (m m' : Machine) : Prop
  /-- There is nothing to do. -/
  | idle : t.phase ≠ .unstarted → t.phase ≠ .resuming → m' = m → Goes p n t m m'
  /-- The task starts and waits for its reply. -/
  | waits : t.phase = .unstarted → t.reply = none → p.requests n ≠ [] →
      Machine.Advances n (fun t => { t with phase := .waiting }) (p.asking n) (p.requests n) m m' →
      m'.state = m.state → Goes p n t m m'
  /-- The task starts and is over: its reply is there, or nothing has left. -/
  | answered : t.phase = .unstarted → (t.reply = none → p.requests n = []) →
      Machine.Concludes p.setup n (p.outcome n) (p.asking n ++ p.answering n) (p.requests n) m m' →
      Goes p n t m m'
  /-- The task goes on with its reply and is over. -/
  | resumed : t.phase = .resuming →
      Machine.Concludes p.setup n (p.outcome n) (p.answering n) [] m m' → Goes p n t m m'

theorem goes (h : p.Along m) (ht : m.task? n = some t) : Goes p n t m (m.step p.setup n) := by
  obtain ⟨query, kept, reply, requested, replied, -⟩ := h.task n t ht
  cases hp : t.phase with
  | waiting => exact .idle (by simp [hp]) (by simp [hp]) (by rw [Machine.step, ht]; simp [hp])
  | ended _ | settled _ =>
    exact .idle (by simp [hp]) (by simp [hp])
      (Machine.step_of_isDone ht (by simp [Task.isDone, Task.ending?, hp]))
  | resuming =>
    refine .resumed hp ?_
    obtain ⟨request, sent, -⟩ := Exchange.exists_request (requested (.inr hp))
    unfold Plan.outcome Plan.answering Exchange.answered
    rw [Exchange.comesTo_of_ok sent, sent]
    exact Machine.concludes_of_resuming p.setup ht hp kept (replied hp)
  | unstarted =>
    -- a task without a reply waits only if there is one to wait for
    by_cases waits : t.reply = none ∧ p.requests n ≠ []
    · obtain ⟨none, leaves⟩ := waits
      obtain ⟨request, sent, only⟩ := Exchange.exists_request leaves
      have asked : (Exchange.send p.setup.endpoint m.isOpen t.query).outcome = .ok request := by
        rw [h.isOpen, query]
        exact sent
      obtain ⟨advances, state⟩ := Machine.advances_of_sent p.setup ht hp kept none asked
      rw [h.isOpen, query] at advances
      refine .waits hp none leaves ?_ state
      unfold Plan.requests
      rw [only]
      exact advances
    · have unsent (none : t.reply = none) : p.requests n = [] := by simpa [none] using waits
      refine .answered hp unsent ?_
      have concludes : Machine.Concludes p.setup n
          (Exchange.comesTo p.setup.endpoint m.isOpen t.query (p.reply n)) _ _ m _ :=
        Machine.concludes_of_unstarted p.setup ht hp kept ?_
      · rw [h.isOpen, query] at concludes
        exact concludes
      · rw [h.isOpen, query]
        exact reply.elim (fun none => .inr ⟨none, unsent none⟩) .inl

/-- A task that is over is as it is planned. -/
theorem concluded (h : p.Along m) (ht : m.task? n = some t) (issued : m.latest = p.count)
    (concludes : Machine.Concludes p.setup n (p.outcome n) events sent m m')
    (under : t.phase = .unstarted ∨ t.phase = .resuming)
    (told : p.transcript n = p.told n t ++ (events ++ p.ending n))
    (sends : (p.requests n).map (Sent.mk n) = p.sent n t ++ sent.map (Sent.mk n)) : p.Along m' := by
  have fits := h.task n t ht
  have loading (latest : n = m.latest) : m.state.outcome = .loading := by
    rw [h.shown ht latest]
    rcases under with hp | hp <;> simp [shows, hp]
  refine h.forward ht concludes.toAdvances ?_ ?_ ?_ (fun _ => ?_) ?_ ?_
  · exact ⟨fits.query, fits.kept, fits.reply, by simp, by simp, by simp [Task.ending?, eq_comm]⟩
  · -- the number of the latest is logged, and it is the last of the plan
    rw [issued]
    exact told
  · exact sends
  · rw [concludes.log, issued, ← List.append_assoc]
    exact (List.suffix_append _ _).isInfix
  · rw [concludes.state]
    split <;> rfl
  · rw [concludes.state]
    split
    · next latest =>
      rw [loading latest]
      rfl
    · rfl

/-- **A step goes along with the plan**, if all have been issued where it ends
its task. -/
theorem step (h : p.Along m)
    (late : m.latest = p.count ∨
      ∀ t, (m.step p.setup n).task? n = some t → t.isDone = false) :
    p.Along (m.step p.setup n) := by
  cases ht : m.task? n with
  | none =>
    have same : m.step p.setup n = m := by rw [Machine.step, ht]
    rwa [same]
  | some t =>
    have issued {events : List Event} {sent : List Request}
        (concludes : Machine.Concludes p.setup n (p.outcome n) events sent m (m.step p.setup n)) :
        m.latest = p.count := by
      refine late.resolve_right fun under => ?_
      have ended := under _ (concludes.task.trans (congrArg _ ht))
      simp [Task.isDone, Task.ending?] at ended
    have fits := h.task n t ht
    cases h.goes ht with
    | idle _ _ same => rwa [same]
    | waits hp _ leaves advances state =>
      refine h.forward ht advances ?_ ?_ ?_ (by simp [Task.isDone, Task.ending?]) ?_ ?_
      · exact ⟨fits.query, fits.kept, fits.reply, fun _ => leaves, by simp, by simp [Task.ending?]⟩
      · simp [told, hp]
      · simp [Plan.sent, hp]
      · rw [state]
      · rw [state]
        split
        · next latest => rw [h.shown ht latest, shows, hp, shows]
        · rfl
    | answered hp _ concludes =>
      refine h.concluded ht (issued concludes) concludes (.inl hp) ?_ ?_
      · simp [told, hp, transcript]
      · simp [Plan.sent, hp]
    | resumed hp concludes =>
      refine h.concluded ht (issued concludes) concludes (.inr hp) ?_ ?_
      · simp [told, hp, transcript]
      · simp [Plan.sent, hp]

/-- **So does a turn.** -/
theorem turn (h : p.Along m)
    (late : m.latest = p.count ∨
      ∀ n t, (m.turn p.setup).task? n = some t → t.isDone = false) :
    p.Along (m.turn p.setup) := by
  rcases Machine.turn_eq p.setup m with idle | ⟨job, -, run⟩
  · rwa [idle]
  · rw [run] at late ⊢
    cases job with
    | step n => exact h.popped.step (late.imp_right fun under t => under n t)
    | settle n => exact h.popped.settle n
    | wake n => exact h.popped

end Along

end Plan

end Submission

end QueryConsole
