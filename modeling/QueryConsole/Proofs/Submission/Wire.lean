import Mathlib
import QueryConsole.Proofs.Submission.Course
import QueryConsole.Proofs.Submission.Described
import QueryConsole.Proofs.Text.Utf8
/-!
# What goes over the wire

A task sends its request with the step that starts it, or never
(`wire_step`). Steps of tasks that have not started stand in the queue in
the order of the submissions, after those that have: that is `InOrder`, and
every move keeps it (`InOrder.perform`). So tasks start in the order in
which they were submitted, and their requests leave in that order.
`wire_of_run` says of a whole run what was sent, when, and for which text.
-/

namespace QueryConsole

/-- **A request leaves exactly if** the query has no surrogate and the client
is open. -/
theorem Exchange.send_eq_ok_iff {endpoint : Endpoint} {isOpen : Bool} {query : Text}
    {sent : Request} : (send endpoint isOpen query).outcome = .ok sent ↔
      isOpen = true ∧ query.isScalar = true ∧ sent = request endpoint (Utf8.encode query) := by
  rcases send_cases endpoint query with ⟨fault, encoded, kept⟩ | ⟨body, encoded, opened, closed⟩
  · have lone : query.isScalar ≠ true := fun scalar => by
      rw [Utf8.encodeScalars_eq_ok_iff.2 ⟨scalar, rfl⟩] at encoded
      simp at encoded
    simp [kept, lone]
  · obtain ⟨scalar, rfl⟩ := Utf8.encodeScalars_eq_ok_iff.1 encoded
    cases isOpen <;> simp [opened, closed, scalar, eq_comm]

/-- A query with a surrogate cannot be encoded, whatever becomes of the
client. -/
theorem Exchange.send_of_surrogate {query : Text} (lone : query.isScalar = false)
    (endpoint : Endpoint) (isOpen : Bool) :
    ∃ fault, (send endpoint isOpen query).outcome = .error (.crashed (.unencodable fault)) := by
  rcases send_cases endpoint query with ⟨fault, -, kept⟩ | ⟨body, encoded, -, -⟩
  · exact ⟨fault, kept isOpen⟩
  · have scalar := (Utf8.encodeScalars_eq_ok_iff.1 encoded).1
    simp [lone] at scalar

namespace Submission

/-- The task that a job steps. -/
def Job.step? : Job → Option Nat
  | step n => some n
  | settle _ => none
  | wake _ => none

namespace Machine

variable {setup : Setup} {m m' : Machine} {n k s : Nat} {a : Action} {t : Task}

/-! ## Steps that are ready -/

/-- The tasks whose steps are ready, in the order in which they run. -/
def steps (m : Machine) : List Nat :=
  m.queue.filterMap Job.step?

theorem steps_enqueue (job : Job) : (m.enqueue job).steps = m.steps ++ job.step?.toList := by
  rw [steps, enqueue, List.filterMap_append, steps]
  cases job <;> rfl

/-- The step that is taken from the queue is the first that is ready. -/
theorem steps_of_head {job : Job} (head : m.queue.head? = some job) :
    m.steps = job.step?.toList ++ m.popped.steps := by
  rw [steps, steps, popped]
  cases hq : m.queue with
  | nil => simp [hq] at head
  | cons first rest =>
    obtain rfl : first = job := by simpa [hq] using head
    cases first <;> rfl

@[simp] theorem steps_update (change : Task → Task) : (m.update n change).steps = m.steps := by
  rw [steps, queue_update, steps]

@[simp] theorem steps_finish (ending : Ending) : (m.finish n ending).steps = m.steps := by
  rw [finish]
  split <;> simp [steps_enqueue, Job.step?]

/-- The end of an exchange makes no step ready. -/
@[simp] theorem steps_conclude (outcome : Except Failure Json) :
    (m.conclude setup n outcome).steps = m.steps := by
  obtain ⟨m', heq, -, -, -, queue, -⟩ := conclude_eq setup n m outcome
  rw [heq, steps_finish, steps, queue, steps]

/-- Nor does a step. -/
theorem steps_step : (m.step setup n).steps = m.steps := by
  have cases := stepped setup n m
  generalize m.step setup n = m' at cases
  cases cases with
  | idle _ => rfl
  | dropped _ _ _ => exact steps_finish _
  | unsent _ _ _ _ | stopped _ _ _ | resumed _ _ _ _ | answered _ _ _ _ _ =>
    exact steps_conclude _
  | sent _ _ _ _ _ => exact steps_update _

theorem steps_settle : (m.settle n).steps = m.steps := by
  rw [steps, queue_settle, steps]

/-- Whoever is prodded and becomes ready has started. -/
theorem Prodded.steps (h : Prodded n m m') :
    m'.steps = m.steps ∨ (∃ t, m.task? n = some t ∧ t.phase = .waiting) ∧
      m'.steps = m.steps ++ [n] := by
  cases h with
  | idle => exact .inl rfl
  | noted _ _ _ => exact .inl (steps_update _)
  | woken ht waiting _ _ =>
    refine .inr ⟨⟨_, ht, waiting⟩, ?_⟩
    rw [steps_enqueue, steps_update]
    rfl

/-! ## Requests -/

/-- What a step of a task sends: its request, if the step is the first of
it, nobody cancelled it before, and the request leaves. -/
def leaving (setup : Setup) (n : Nat) (m : Machine) : List Sent :=
  match m.task? n with
  | none => []
  | some t =>
    if t.phase = .unstarted ∧ t.cancelRequested = false ∧ m.isOpen = true ∧
        t.query.isScalar = true then
      [⟨n, Exchange.request setup.endpoint (Utf8.encode t.query)⟩]
    else []

/-- A task that has started, or that somebody cancelled, sends nothing any
more. -/
theorem leaving_eq_nil
    (h : ∀ t, m.task? n = some t → t.phase ≠ .unstarted ∨ t.cancelRequested = true) :
    m.leaving setup n = [] := by
  rw [leaving]
  cases ht : m.task? n with
  | none => rfl
  | some t => rcases h t ht with started | cancelled <;> simp [*]

theorem sequence_of_mem_leaving {r : Sent} (mem : r ∈ m.leaving setup n) : r.sequence = n := by
  rw [leaving] at mem
  split at mem
  · simp at mem
  · split at mem
    · rw [List.mem_singleton.1 mem]
    · simp at mem

theorem pairwise_leaving : ((m.leaving setup n).map Sent.sequence).Pairwise (· < ·) := by
  rw [leaving]
  split
  · exact .nil
  · split
    · exact List.pairwise_singleton _ _
    · exact .nil

theorem wire_conclude (outcome : Except Failure Json) :
    (m.conclude setup n outcome).wire = m.wire := by
  obtain ⟨m', heq, -, -, wire, -, -⟩ := conclude_eq setup n m outcome
  rw [heq, wire_finish, wire]

/-- **A step sends what is leaving**, and nothing else. -/
theorem wire_step : (m.step setup n).wire = m.wire ++ m.leaving setup n := by
  have only {t u : Task} (ht : m.task? n = some t) (hu : m.task? n = some u) : u = t := by
    simpa [ht] using hu.symm
  have cases := stepped setup n m
  generalize m.step setup n = m' at cases
  cases cases with
  | idle nothing =>
    rw [leaving_eq_nil fun t ht => .inl (nothing t ht).1, List.append_nil]
  | dropped ht _ hc =>
    rw [leaving_eq_nil fun u hu => .inr (only ht hu ▸ hc), wire_finish, List.append_nil]
  | @unsent t failure ht hp hc hs =>
    have stays : ¬ (m.isOpen = true ∧ t.query.isScalar = true) := by
      rintro ⟨isOpen, scalar⟩
      rw [Exchange.send_eq_ok_iff.2 ⟨isOpen, scalar, rfl⟩] at hs
      simp at hs
    rw [wire_conclude, wire_record, leaving, ht]
    simp only [hp, hc, true_and, if_neg stays, List.append_nil]
  | @sent t request ht hp hc hs _ =>
    obtain ⟨isOpen, scalar, rfl⟩ := Exchange.send_eq_ok_iff.1 hs
    rw [wire_update, wire_transmit, wire_record, leaving, ht]
    simp [hp, hc, isOpen, scalar]
  | @answered t request reply ht hp hc hs _ =>
    obtain ⟨isOpen, scalar, rfl⟩ := Exchange.send_eq_ok_iff.1 hs
    rw [receive, wire_conclude, wire_record, wire_transmit, wire_record, leaving, ht]
    simp [hp, hc, isOpen, scalar]
  | stopped ht hp _ =>
    rw [leaving_eq_nil fun u hu => .inl (by simp [only ht hu, hp]), wire_conclude, List.append_nil]
  | resumed ht hp _ _ =>
    rw [leaving_eq_nil fun u hu => .inl (by simp [only ht hu, hp]), receive, wire_conclude,
      wire_record, List.append_nil]

/-- **No other move sends anything.** -/
theorem wire_of_not_stepped (single : a.isMove = true) (other : ∀ n, ¬ StepsNext n a m) :
    (m.perform setup a).wire = m.wire := by
  cases a with
  | edit e | closeClient => rfl
  | submit text reply => exact wire_submit text reply
  | release n reply => exact (prodded_release n reply m).wire
  | cancel n => exact (prodded_cancel n m).wire
  | watch n => exact (prodded_watch n m).wire
  | turn =>
    rw [perform]
    rcases turn_eq setup m with idle | ⟨job, head, run⟩
    · rw [idle]
    · rw [run]
      cases job with
      | step n => exact absurd ⟨rfl, head⟩ (other n)
      | settle n => exact wire_settle
      | wake n => rfl
  | drain | run _ _ | close => simp [Action.isMove] at single

/-! ## The order of the steps -/

/-- **The first `s` submissions have started, and the others will in their
order.** -/
structure InOrder (s : Nat) (m : Machine) : Prop where
  issued : s ≤ m.latest
  unstarted : ∀ k t, m.task? k = some t → (t.phase = .unstarted ↔ s < k)
  waiting : m.steps.filter (s < ·) = List.range' (s + 1) (m.latest - s)
  sent : ∀ r ∈ m.wire, r.sequence ≤ s
  sorted : (m.wire.map Sent.sequence).Pairwise (· < ·)

namespace InOrder

/-- A move that starts no task keeps the order. -/
theorem of_rests (h : InOrder s m) (latest : m'.latest = m.latest)
    (tasks : ∀ k t, m.task? k = some t → ∃ t', m'.task? k = some t' ∧
      (t'.phase = .unstarted ↔ t.phase = .unstarted))
    (steps : m'.steps.filter (s < ·) = m.steps.filter (s < ·)) (wire : m'.wire = m.wire) :
    InOrder s m' where
  issued := latest ▸ h.issued
  unstarted k t' ht' := by
    have issued := task?_isSome.1 (Option.isSome_iff_exists.2 ⟨t', ht'⟩)
    rw [latest] at issued
    obtain ⟨t, ht⟩ := Option.isSome_iff_exists.1 (task?_isSome.2 issued)
    obtain ⟨u, hu, same⟩ := tasks k t ht
    obtain rfl : t' = u := by simpa [ht'] using hu
    rw [same, h.unstarted k t ht]
  waiting := by rw [steps, latest, h.waiting]
  sent := wire ▸ h.sent
  sorted := wire ▸ h.sorted

/-- A submission takes the last place. -/
theorem submit (h : InOrder s m) (text : Option Text) (reply : Option Reply) :
    InOrder s (m.submit text reply) where
  issued := by
    have := h.issued
    rw [latest_submit]
    omega
  unstarted k t ht := by
    have issued := h.issued
    rw [task?_submit] at ht
    split at ht
    · next last =>
      obtain rfl := Option.some.inj ht
      simp only [Task.new, true_iff]
      omega
    · exact h.unstarted k t ht
  waiting := by
    have issued := h.issued
    have ready : (m.submit text reply).steps = m.steps ++ [m.latest + 1] :=
      steps_enqueue (.step (m.latest + 1))
    have next : s < m.latest + 1 := by omega
    rw [ready, List.filter_append, h.waiting, latest_submit,
      show m.latest + 1 - s = m.latest - s + 1 by omega, List.range'_concat]
    simp [next]
    omega
  sent := h.sent
  sorted := h.sorted

/-- Whoever is prodded has started or is not made ready. -/
theorem prodded (h : InOrder s m) (prodded : Prodded n m m') : InOrder s m' := by
  refine h.of_rests prodded.latest (fun k t ht => ?_) ?_ prodded.wire
  · obtain ⟨t', ht', rests⟩ := prodded.rests ht
    exact ⟨t', ht', rests.unstarted⟩
  · rcases prodded.steps with same | ⟨⟨t, ht, waiting⟩, same⟩
    · rw [same]
    · have started : ¬ s < n := by
        rw [← h.unstarted n t ht, waiting]
        simp
      rw [same, List.filter_append]
      simp [started]

/-- The step of a task that has started keeps the order. -/
theorem step_of_started (h : InOrder s m) (started : ¬ s < n)
    (ready : m.popped.steps.filter (s < ·) = m.steps.filter (s < ·)) :
    InOrder s (m.popped.step setup n) := by
  have phase {t : Task} (ht : m.popped.task? n = some t) : t.phase ≠ .unstarted :=
    mt (h.unstarted n t (by rwa [task?_popped] at ht)).1 started
  refine h.of_rests (latest_step.trans latest_popped) (fun k t ht => ?_) ?_ ?_
  · rw [← task?_popped] at ht
    by_cases own : k = n
    · subst own
      obtain ⟨t', ht', started'⟩ := started_by_step setup ht
      exact ⟨t', ht', iff_of_false started' (phase ht)⟩
    · exact ⟨t, by rw [task?_step_of_ne own, ht], .rfl⟩
  · rw [steps_step, ready]
  · rw [wire_step, leaving_eq_nil fun t ht => .inl (phase ht), List.append_nil, wire_popped]

/-- **The step of the next task in line** sends after all that was sent. -/
theorem step_of_next (h : InOrder s m) (next : s < m.latest)
    (ready : m.popped.steps.filter (s < ·) = List.range' (s + 2) (m.latest - (s + 1))) :
    InOrder (s + 1) (m.popped.step setup (s + 1)) where
  issued := by
    rw [latest_step, latest_popped]
    omega
  unstarted k t ht := by
    by_cases own : k = s + 1
    · subst own
      obtain ⟨u, hu⟩ := Option.isSome_iff_exists.1
        (task?_isSome.2 ⟨Nat.succ_pos s, (show s + 1 ≤ m.popped.latest from next)⟩)
      obtain ⟨t', ht', started⟩ := started_by_step setup hu
      obtain rfl := Option.some.inj (ht.symm.trans ht')
      exact iff_of_false started (Nat.lt_irrefl _)
    · rw [task?_step_of_ne own, task?_popped] at ht
      rw [h.unstarted k t ht]
      omega
  waiting := by
    have narrower : m.popped.steps.filter (s + 1 < ·) =
        (m.popped.steps.filter (s < ·)).filter (s + 1 < ·) := by
      rw [List.filter_filter]
      refine List.filter_congr fun k _ => ?_
      simp only [← Bool.decide_and, decide_eq_decide]
      omega
    have beyond (rest : Nat) : (List.range' (s + 2) rest).filter (s + 1 < ·) =
        List.range' (s + 2) rest :=
      List.filter_eq_self.2 fun k mem => decide_eq_true (List.mem_range'_1.1 mem).1
    rw [steps_step, narrower, ready, beyond, latest_step, latest_popped]
  sent r mem := by
    rw [wire_step, wire_popped] at mem
    rcases List.mem_append.1 mem with before | new
    · exact Nat.le_succ_of_le (h.sent r before)
    · exact Nat.le_of_eq (sequence_of_mem_leaving new)
  sorted := by
    rw [wire_step, wire_popped, List.map_append]
    refine List.pairwise_append.2 ⟨h.sorted, pairwise_leaving, fun i before j new => ?_⟩
    obtain ⟨r, mem, rfl⟩ := List.mem_map.1 before
    obtain ⟨r', mem', rfl⟩ := List.mem_map.1 new
    rw [sequence_of_mem_leaving mem']
    exact Nat.lt_succ_of_le (h.sent r mem)

/-- **A step is one of the next task or of one that has started.** -/
theorem step (h : InOrder s m) (head : m.queue.head? = some (.step n)) :
    ∃ s', InOrder s' (m.popped.step setup n) := by
  have steps : m.steps = n :: m.popped.steps := steps_of_head head
  by_cases later : s < n
  · have waiting := h.waiting
    rw [steps, List.filter_cons_of_pos (by simpa using later)] at waiting
    cases left : m.latest - s with
    | zero => simp [left] at waiting
    | succ rest =>
      rw [left, List.range'_succ] at waiting
      obtain ⟨rfl, ready⟩ := List.cons.inj waiting
      obtain rfl : rest = m.latest - (s + 1) := by omega
      exact ⟨s + 1, h.step_of_next (by omega) ready⟩
  · refine ⟨s, h.step_of_started later ?_⟩
    rw [steps, List.filter_cons_of_neg (by simpa using later)]

/-- **Every move keeps the order.** -/
theorem perform (h : InOrder s m) (single : a.isMove = true) :
    ∃ s', InOrder s' (m.perform setup a) := by
  cases a with
  | edit e | closeClient =>
    exact ⟨s, h.of_rests rfl (fun k t ht => ⟨t, (task?_congr rfl k).trans ht, .rfl⟩) rfl rfl⟩
  | submit text reply => exact ⟨s, h.submit text reply⟩
  | release n reply => exact ⟨s, h.prodded (prodded_release n reply m)⟩
  | cancel n => exact ⟨s, h.prodded (prodded_cancel n m)⟩
  | watch n => exact ⟨s, h.prodded (prodded_watch n m)⟩
  | turn =>
    rw [Machine.perform]
    rcases turn_eq setup m with idle | ⟨job, head, run⟩
    · exact ⟨s, by rw [idle]; exact h⟩
    · have ready := steps_of_head head
      rw [run]
      cases job with
      | step n => exact h.step head
      | settle n =>
        refine ⟨s, h.of_rests (latest_settle.trans latest_popped) (fun k t ht => ?_) ?_ wire_settle⟩
        · obtain ⟨t', ht', rests⟩ := rests_settle n (show m.popped.task? k = some t by
            rw [task?_popped, ht])
          exact ⟨t', ht', rests.unstarted⟩
        · rw [runJob, steps_settle, ready]; rfl
      | wake n =>
        refine ⟨s, h.of_rests rfl (fun k t ht => ⟨t, ?_, .rfl⟩) ?_ rfl⟩
        · rw [runJob, task?_popped, ht]
        · rw [runJob, ready]; rfl
  | drain | run _ _ | close => simp [Action.isMove] at single

end InOrder

/-- Before any submission the order holds. -/
theorem inOrder_new (state : Query.State) : InOrder 0 (new state) where
  issued := Nat.le_refl 0
  unstarted k t ht := by
    have absent : (new state).task? k = none := task?_eq_none.2 (Nat.eq_zero_or_pos k)
    simp [absent] at ht
  waiting := rfl
  sent r mem := absurd mem List.not_mem_nil
  sorted := .nil

/-! ## The requests of a submission -/

/-- **What a submission has sent.** -/
def sentBy (n : Nat) (m : Machine) : List Request :=
  (m.wire.filter fun r => r.sequence == n).map Sent.request

theorem sentBy_congr (h : m'.wire = m.wire) (k : Nat) : m'.sentBy k = m.sentBy k := by
  rw [sentBy, sentBy, h]

/-- Nothing has been sent by a submission whose turn is still to come. -/
theorem InOrder.sentBy_eq_nil (h : InOrder s m) (later : s < n) : m.sentBy n = [] := by
  rw [sentBy, List.map_eq_nil_iff, List.filter_eq_nil_iff]
  intro r mem
  have := h.sent r mem
  simp only [beq_iff_eq]
  omega

/-- A step sends for its own submission. -/
theorem sentBy_step : (m.step setup n).sentBy n =
    m.sentBy n ++ (m.leaving setup n).map Sent.request := by
  have own : (m.leaving setup n).filter (fun r => r.sequence == n) = m.leaving setup n :=
    List.filter_eq_self.2 fun r mem => by simp [sequence_of_mem_leaving mem]
  rw [sentBy, wire_step, List.filter_append, List.map_append, own, sentBy]

theorem sentBy_step_of_ne (other : k ≠ n) : (m.step setup n).sentBy k = m.sentBy k := by
  have none : (m.leaving setup n).filter (fun r => r.sequence == k) = [] :=
    List.filter_eq_nil_iff.2 fun r mem => by
      simpa [sequence_of_mem_leaving mem] using other.symm
  rw [sentBy, wire_step, List.filter_append, none, List.append_nil, sentBy]

/-- **A submission that has started sends nothing more.** -/
theorem sentBy_of_started (single : a.isMove = true) (ht : m.task? n = some t)
    (started : t.phase ≠ .unstarted) : (m.perform setup a).sentBy n = m.sentBy n := by
  by_cases stepped : ∃ k, StepsNext k a m
  · obtain ⟨k, own⟩ := stepped
    rw [own.perform]
    by_cases same : n = k
    · subst same
      have nothing : m.popped.leaving setup n = [] := leaving_eq_nil fun u hu => by
        obtain rfl : t = u := Option.some.inj (ht.symm.trans (task?_popped.symm.trans hu))
        exact .inl started
      rw [sentBy_step, nothing, List.map_nil, List.append_nil]
      rfl
    · rw [sentBy_step_of_ne same]
      rfl
  · exact sentBy_congr (wire_of_not_stepped single fun k own => stepped ⟨k, own⟩) n

/-! ## Requests that do not leave -/

/-- **A request that does not leave ends its task.** With the catalogs that
come with the console the task ends normally, and the failure is shown if
the submission is the latest then. -/
theorem step_of_unsent (bundled : setup.messages.directory = Catalog.bundled)
    (ht : m.task? n = some t) (unstarted : t.phase = .unstarted)
    (kept : t.cancelRequested = false) {crash : Crash}
    (failed : (Exchange.send setup.endpoint m.isOpen t.query).outcome = .error (.crashed crash)) :
    (∃ t', (m.step setup n).task? n = some t' ∧ t'.ending? = some .completed) ∧
      (n = m.latest → ∃ message, (m.step setup n).state.outcome = .error .transport message) := by
  have step : m.step setup n =
      (m.record (Exchange.send setup.endpoint m.isOpen t.query).events).conclude setup n
        (.error (.crashed crash)) := by
    rw [Machine.step, ht]
    simp only [unstarted, kept, start, failed]
    rfl
  obtain ⟨message, described⟩ := describe?_bundled bundled
    (show ∀ message, Failure.crashed crash ≠ .cancelled message by simp) rfl
  have described' : describeCrash setup crash = .ok message := Option.some.inj described
  rw [step]
  refine ⟨⟨_, by rw [task?_conclude, if_pos rfl, task?_record, ht]; rfl, ?_⟩, fun last => ?_⟩
  · simp [Task.ending?, endingOf, describe?, described']
  · obtain ⟨m'', heq, -, -, -, -, state⟩ := conclude_eq setup n
      (m.record (Exchange.send setup.endpoint m.isOpen t.query).events) (.error (.crashed crash))
    refine ⟨message, ?_⟩
    rw [heq, state_finish, state, latest_record, if_pos last]
    simp [shown?, describe?, described', shownKind]

/-! ## Runs -/

/-- **Every request carries the query of its submission**, which has no
surrogate. -/
def Faithful (setup : Setup) (m : Machine) : Prop :=
  ∀ r ∈ m.wire, ∃ t, m.task? r.sequence = some t ∧ t.query.isScalar = true ∧
    r.request = Exchange.request setup.endpoint (Utf8.encode t.query)

theorem Faithful.perform (h : Faithful setup m) (single : a.isMove = true) :
    Faithful setup (m.perform setup a) := by
  -- what is sent now is of a task that is there, and the query of a task stays
  have sent : ∀ r ∈ (m.perform setup a).wire, ∃ t, m.task? r.sequence = some t ∧
      t.query.isScalar = true ∧
      r.request = Exchange.request setup.endpoint (Utf8.encode t.query) := by
    intro r mem
    by_cases stepped : ∃ n, StepsNext n a m
    · obtain ⟨n, own⟩ := stepped
      rw [own.perform, wire_step, wire_popped] at mem
      rcases List.mem_append.1 mem with before | new
      · exact h r before
      · rw [leaving, task?_popped] at new
        cases ht : m.task? n with
        | none => simp [ht] at new
        | some t =>
          simp only [ht] at new
          split at new
          · next leaves =>
            rw [List.mem_singleton.1 new]
            exact ⟨t, ht, leaves.2.2.2, rfl⟩
          · simp at new
    · exact h r (wire_of_not_stepped single (fun n own => stepped ⟨n, own⟩) ▸ mem)
  intro r mem
  obtain ⟨t, ht, scalar, request⟩ := sent r mem
  obtain ⟨t', ht', becomes⟩ := task_of_perform setup single ht
  exact ⟨t', ht', by rw [becomes.query, scalar], by rw [becomes.query, request]⟩

variable {actions : List Action} {start : Machine}

/-- The order holds at every moment of a run. -/
theorem Moment.inOrder {queryText : Text} (h : Moment setup (new (.new queryText)) actions) :
    ∃ s, InOrder s h.machine :=
  h.machine_of_perform (P := fun m => ∃ s, InOrder s m)
    (fun _ _ single ⟨_, order⟩ => order.perform single) ⟨0, inOrder_new _⟩

/-- What a submission has sent after the step that starts it is all that it
sends. -/
theorem Moment.sentBy_of_next (h : Moment setup start actions) (ht : h.next.task? n = some t)
    (started : t.phase ≠ .unstarted) :
    (start.runFrom setup actions).sentBy n = h.next.sentBy n := by
  refine (h.runFrom_of_next (P := fun m => m.sentBy n = h.next.sentBy n ∧
    ∃ t, m.task? n = some t ∧ t.phase ≠ .unstarted) ?_ ⟨rfl, t, ht, started⟩).1
  rintro m a single ⟨same, u, hu, started⟩
  obtain ⟨u', hu', becomes⟩ := task_of_perform setup single hu
  exact ⟨(sentBy_of_started single hu started).trans same, u', hu', becomes.started started⟩

/-- **The wire is faithful to the submissions of a run**, whatever happens
in it. Requests leave in the order of the submissions, and each carries the
text of its submission and nothing else that is not the same for all. The
text is the one that was captured when the submission was issued. A
submission sends nothing before its task starts, and then one request or
none: one exactly if the task was not cancelled before, the client was open
and the text has no surrogate. With the catalogs that come with the console,
a text with a surrogate makes a task that starts end normally, and the failure
is shown if the submission is the latest then. -/
theorem wire_of_run (setup : Setup) (queryText : Text) (actions : List Action) :
    let start := new (.new queryText)
    let m := start.runFrom setup actions
    (m.wire.map Sent.sequence).Pairwise (· < ·) ∧
    (∀ r ∈ m.wire, ∃ t, m.task? r.sequence = some t ∧
      r.request = ⟨"POST", setup.endpoint.url, "text/plain", Utf8.encode t.query,
        setup.endpoint.timeout⟩ ∧
      Utf8.decode false 0 r.request.body = .ok t.query) ∧
    ∀ n t, m.task? n = some t →
      (∃ (h : Moment setup start actions) (text : Option Text) (reply : Option Reply),
        h.move = .submit text reply ∧ h.machine.latest + 1 = n ∧
        t.query = text.getD h.machine.state.queryText) ∧
      (t.phase = .unstarted → m.sentBy n = []) ∧
      (t.phase ≠ .unstarted → ∃ (h : Moment setup start actions) (t₁ : Task),
        StepsNext n h.move h.machine ∧ h.machine.task? n = some t₁ ∧ t₁.phase = .unstarted ∧
        m.sentBy n = (if t₁.cancelRequested = false ∧ h.machine.isOpen = true ∧
            t.query.isScalar = true then
          [⟨"POST", setup.endpoint.url, "text/plain", Utf8.encode t.query,
            setup.endpoint.timeout⟩] else []) ∧
        (setup.messages.directory = Catalog.bundled → t.query.isScalar = false →
          t₁.cancelRequested = false → m.sentBy n = [] ∧ t.ending? = some .completed ∧
            (n = h.machine.latest →
              ∃ message, h.next.state.outcome = .error .transport message))) := by
  intro start m
  have fresh (n : Nat) : start.task? n = none := task?_eq_none.2 (Nat.eq_zero_or_pos n)
  obtain ⟨s, order⟩ : ∃ s, InOrder s m :=
    runFrom_of_kept (P := fun m => ∃ s, InOrder s m)
      (fun _ _ single ⟨_, order⟩ => order.perform single) ⟨0, inOrder_new _⟩ actions
  have faithful : Faithful setup m :=
    runFrom_of_kept (P := Faithful setup) (fun _ _ single kept => kept.perform single)
      (fun _ mem => absurd mem List.not_mem_nil) actions
  refine ⟨order.sorted, fun r mem => ?_, fun n t ht => ⟨?_, fun unstarted => ?_, fun started => ?_⟩⟩
  · obtain ⟨t, ht, scalar, request⟩ := faithful r mem
    exact ⟨t, ht, request, by rw [request]; exact Utf8.decode_encode_of_isScalar scalar 0⟩
  · exact exists_submitted (task?_isSome.1 (Option.isSome_iff_exists.2 ⟨t, ht⟩)).1 ht
  · exact order.sentBy_eq_nil ((order.unstarted n t ht).1 unstarted)
  · obtain ⟨h, t₁, t₂, own, ht₁, unstarted, ht₂, started₂, becomes, later⟩ :=
      exists_started (fresh n) ht started
    have query : t₁.query = t.query := by rw [later.query, becomes.query]
    -- the step that starts a task sends all that it ever sends: its turn in the
    -- order had not come before, and a task that has started sends nothing
    have sent : m.sentBy n = (h.machine.leaving setup n).map Sent.request := by
      obtain ⟨s₁, order₁⟩ := h.inOrder
      have before : h.machine.sentBy n = [] :=
        order₁.sentBy_eq_nil ((order₁.unstarted n t₁ ht₁).1 unstarted)
      have step : h.next.sentBy n = h.machine.sentBy n ++
          (h.machine.popped.leaving setup n).map Sent.request := by
        rw [Moment.next, own.perform, sentBy_step]
        rfl
      rw [h.sentBy_of_next ht₂ started₂, step, before, List.nil_append, leaving, leaving,
        task?_popped]
      rfl
    refine ⟨h, t₁, own, ht₁, unstarted, ?_, fun bundled lone kept => ?_⟩
    · rw [sent, leaving, ht₁]
      simp only [unstarted, query, true_and]
      split <;> rfl
    · have lone₁ : t₁.query.isScalar = false := query ▸ lone
      have nothing : h.machine.leaving setup n = [] := by
        rw [leaving, ht₁]
        simp [lone₁]
      obtain ⟨fault, failed⟩ :=
        Exchange.send_of_surrogate lone₁ setup.endpoint h.machine.popped.isOpen
      obtain ⟨⟨t', ht', completed⟩, shown⟩ :=
        step_of_unsent bundled (task?_popped.trans ht₁) unstarted kept failed
      rw [← own.perform] at ht' shown
      obtain rfl : t₂ = t' := Option.some.inj (ht₂.symm.trans ht')
      exact ⟨by rw [sent, nothing, List.map_nil], later.ending _ completed, shown⟩

end Machine

end Submission

end QueryConsole
