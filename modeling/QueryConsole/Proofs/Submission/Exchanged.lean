import QueryConsole.Proofs.Submission.Account
import QueryConsole.Proofs.Submission.Alone
/-!
# An exchange with its reply

`Exchange.comesTo` is what an exchange comes to over a client that is open or
closed, with the reply that is meant for it. A step of a task that has its
reply is the end of that exchange (`concludes_of_unstarted`,
`concludes_of_resuming`), and one of a task that has not sends the request and
waits (`advances_of_sent`). Whether the client is open matters only when the
task starts: no job changes it (`isOpen_step`, `isOpen_settle`).
-/

namespace QueryConsole

namespace Exchange

/-- What an exchange comes to over a client that is open or closed. -/
def comesTo (endpoint : Endpoint) (isOpen : Bool) (query : Text) (reply : Reply) :
    Except Failure Json :=
  match (send endpoint isOpen query).outcome with
  | .error failure => .error failure
  | .ok _ => (receive endpoint reply).outcome

/-- The requests that leave. -/
def requests (endpoint : Endpoint) (isOpen : Bool) (query : Text) : List Request :=
  match (send endpoint isOpen query).outcome with
  | .error _ => []
  | .ok request => [request]

/-- What is logged of the reply, where a request has left. -/
def answered (endpoint : Endpoint) (isOpen : Bool) (query : Text) (reply : Reply) : List Event :=
  match (send endpoint isOpen query).outcome with
  | .error _ => []
  | .ok _ => (receive endpoint reply).events

variable {endpoint : Endpoint} {isOpen : Bool} {query : Text} {reply : Reply}

theorem comesTo_of_error {failure : Failure}
    (h : (send endpoint isOpen query).outcome = .error failure) :
    comesTo endpoint isOpen query reply = .error failure := by
  unfold comesTo
  rw [h]

theorem comesTo_of_ok {request : Request} (h : (send endpoint isOpen query).outcome = .ok request) :
    comesTo endpoint isOpen query reply = (receive endpoint reply).outcome := by
  unfold comesTo
  rw [h]

/-- An exchange that is cancelled was so by its reply. -/
theorem cancelled_of_comesTo {message : Option Text}
    (h : comesTo endpoint isOpen query reply = .error (.cancelled message)) :
    reply = .raised (.cancelled message) := by
  cases sent : (send endpoint isOpen query).outcome with
  | error failure =>
    rw [comesTo_of_error sent] at h
    obtain rfl := Except.error.inj h
    -- no request is kept from leaving by a cancellation
    rcases send_cases endpoint query with ⟨fault, -, kept⟩ | ⟨body, -, opened, closed⟩
    · simp [kept] at sent
    · cases isOpen <;> simp [opened, closed] at sent
  | ok request =>
    rw [comesTo_of_ok sent] at h
    cases reply with
    | response status body =>
      unfold receive readBody at h
      simp only at h
      split at h
      · split at h <;> simp at h
      · simp at h
    | broken fault message => simp [receive] at h
    | raised failure =>
      simp only [receive, Except.error.injEq] at h
      rw [h]

end Exchange

namespace Submission

/-- Of an exchange from which no fault escapes something is left, and the
state is idle just if it was cancelled. -/
theorem leftBy_of_not_escaped {setup : Setup} {outcome : Except Failure Json}
    (h : ∀ fault, endingOf setup outcome ≠ .escaped fault) :
    leftBy setup outcome ≠ .loading ∧
      (leftBy setup outcome = .idle ↔ ∃ message, endingOf setup outcome = .cancelled message) := by
  match outcome with
  | .ok result => simp [leftBy, shown?, endingOf]
  | .error (.cancelled message) => simp [leftBy, endingOf]
  | .error (.refused refusal) =>
    cases described : describeRefusal setup refusal with
    | ok message => simp [leftBy, shown?, describe?, endingOf, described]
    | error fault => exact absurd (by simp [endingOf, describe?, described]) (h fault)
  | .error (.crashed crash) =>
    cases described : describeCrash setup crash with
    | ok message => simp [leftBy, shown?, describe?, endingOf, described]
    | error fault => exact absurd (by simp [endingOf, describe?, described]) (h fault)

namespace Machine

variable {setup : Setup} {m m' : Machine} {n k : Nat} {t : Task}

/-! ## Other tasks, and the client -/

theorem isOpen_update (change : Task → Task) : (m.update n change).isOpen = m.isOpen := by
  cases n <;> rfl

theorem isOpen_finish (ending : Ending) : (m.finish n ending).isOpen = m.isOpen := by
  rw [finish]
  split <;> simp [enqueue, isOpen_update]

theorem isOpen_apply (change : Query.State → Query.State) :
    (m.apply n change).isOpen = m.isOpen := by
  unfold apply
  split <;> rfl

theorem isOpen_conclude (outcome : Except Failure Json) :
    (m.conclude setup n outcome).isOpen = m.isOpen := by
  unfold conclude
  split
  · rw [isOpen_finish, isOpen_apply]
    rfl
  · split
    · rw [isOpen_finish, isOpen_apply]
      rfl
    · exact isOpen_finish _
  · exact isOpen_finish _
  · dsimp only
    split
    · rw [isOpen_finish, isOpen_apply]
      rfl
    · exact isOpen_finish _

/-- **No step opens or closes the client.** -/
theorem isOpen_step : (m.step setup n).isOpen = m.isOpen := by
  have cases := stepped setup n m
  generalize m.step setup n = m' at cases
  cases cases with
  | idle _ => rfl
  | dropped _ _ _ => exact isOpen_finish _
  | sent _ _ _ _ _ => exact isOpen_update _
  | unsent _ _ _ _ | answered _ _ _ _ _ | resumed _ _ _ _ => exact isOpen_conclude _
  | stopped _ _ _ => exact isOpen_conclude _

theorem isOpen_settle : (m.settle n).isOpen = m.isOpen := by
  obtain ⟨tasks, state, same⟩ := settle_eq n m
  rw [same]

theorem Prodded.isOpen (h : Prodded k m m') : m'.isOpen = m.isOpen := by
  cases h with
  | idle => rfl
  | noted _ _ _ | woken _ _ _ _ => exact isOpen_update _

/-- What is asked of one task leaves the others. -/
theorem Prodded.task?_of_ne (h : Prodded k m m') (other : n ≠ k) : m'.task? n = m.task? n := by
  cases h with
  | idle => rfl
  | noted _ _ _ => rw [task?_update, if_neg other]
  | woken _ _ _ _ => rw [task?_enqueue, task?_update, if_neg other]

/-! ## The end of an exchange -/

/-- **A task is taken forward**: it is changed and no other is, and some
events are logged and requests sent. -/
structure Advances (n : Nat) (change : Task → Task) (events : List Event) (sent : List Request)
    (m m' : Machine) : Prop where
  task : m'.task? n = (m.task? n).map change
  others : ∀ k, k ≠ n → m'.task? k = m.task? k
  latest : m'.latest = m.latest
  isOpen : m'.isOpen = m.isOpen
  log : m'.log = m.log ++ events
  wire : m'.wire = m.wire ++ sent.map (Sent.mk n)

/-- **A step that ends an exchange**: it logs what came before the end, and
then concludes. -/
structure Concludes (setup : Setup) (n : Nat) (outcome : Except Failure Json) (events : List Event)
    (sent : List Request) (m m' : Machine) : Prop extends
    Advances n (fun t => { t with phase := .ended (endingOf setup outcome) })
      (events ++ closing setup n m.latest outcome) sent m m' where
  state : m'.state = if n = m.latest then
    { m.state with outcome := (shown? setup outcome).getD m.state.outcome } else m.state

/-- What a step does before it concludes may be logging and sending. -/
theorem concludes_of_eq {m₁ : Machine} {outcome : Except Failure Json} {events : List Event}
    {sent : List Request} (task : ∀ k, m₁.task? k = m.task? k) (latest : m₁.latest = m.latest)
    (isOpen : m₁.isOpen = m.isOpen) (log : m₁.log = m.log ++ events)
    (wire : m₁.wire = m.wire ++ sent.map (Sent.mk n)) (state : m₁.state = m.state) :
    Concludes setup n outcome events sent m (m₁.conclude setup n outcome) := by
  obtain ⟨m₂, heq, -, latest₂, wire₂, -, state₂⟩ := conclude_eq setup n m₁ outcome
  refine ⟨⟨?_, fun k other => ?_, ?_, ?_, ?_, ?_⟩, ?_⟩
  · rw [task?_conclude, if_pos rfl, task]
  · rw [task?_conclude, if_neg other, task]
  · rw [heq, latest_finish, latest₂, latest]
  · rw [isOpen_conclude, isOpen]
  · rw [log_conclude, log, latest, List.append_assoc]
  · rw [heq, wire_finish, wire₂, wire]
  · rw [heq, state_finish, state₂, latest, state]

/-- **A task that starts with its reply there**, or whose request does not
leave, is over at once. -/
theorem concludes_of_unstarted (setup : Setup) {reply : Reply} (ht : m.task? n = some t)
    (unstarted : t.phase = .unstarted) (kept : t.cancelRequested = false)
    (replied : t.reply = some reply ∨
      t.reply = none ∧ Exchange.requests setup.endpoint m.isOpen t.query = []) :
    Concludes setup n (Exchange.comesTo setup.endpoint m.isOpen t.query reply)
      ((Exchange.send setup.endpoint m.isOpen t.query).events ++
        Exchange.answered setup.endpoint m.isOpen t.query reply)
      (Exchange.requests setup.endpoint m.isOpen t.query) m (m.step setup n) := by
  have only {u : Task} (hu : m.task? n = some u) : u = t := by simpa [ht] using hu.symm
  unfold Exchange.comesTo Exchange.answered
  unfold Exchange.requests at replied ⊢
  have cases := stepped setup n m
  generalize m.step setup n = m' at cases
  cases cases with
  | idle nothing => exact absurd unstarted (nothing t ht).1
  | dropped hu _ cancelled => simp [only hu, kept] at cancelled
  | sent hu _ _ sent none =>
    rw [only hu] at sent none
    simp [none, sent] at replied
  | stopped hu resuming _ | resumed hu resuming _ _ => simp [only hu, unstarted] at resuming
  | unsent hu _ _ failed =>
    obtain rfl := only hu
    rw [failed]
    refine concludes_of_eq (fun k => task?_record _) rfl rfl ?_ ?_ rfl
    · rw [log_record, List.append_nil]
    · rw [wire_record, List.map_nil, List.append_nil]
  | @answered u request given hu _ _ sent same =>
    obtain rfl := only hu
    obtain rfl : given = reply := by simpa [same] using replied
    rw [sent]
    refine concludes_of_eq (fun k => ?_) rfl rfl ?_ ?_ rfl
    · rw [task?_record, task?_transmit, task?_record]
    · rw [log_record, log_transmit, log_record, List.append_assoc]
    · rw [wire_record, wire_transmit, wire_record]
      rfl

/-- **A task that goes on with its reply** is over. -/
theorem concludes_of_resuming (setup : Setup) {reply : Reply} (ht : m.task? n = some t)
    (resuming : t.phase = .resuming) (kept : t.cancelRequested = false)
    (replied : t.reply = some reply) :
    Concludes setup n (Exchange.receive setup.endpoint reply).outcome
      (Exchange.receive setup.endpoint reply).events [] m (m.step setup n) := by
  have only {u : Task} (hu : m.task? n = some u) : u = t := by simpa [ht] using hu.symm
  have cases := stepped setup n m
  generalize m.step setup n = m' at cases
  cases cases with
  | idle nothing => simp [(nothing t ht).2 resuming] at replied
  | dropped hu unstarted _ | unsent hu unstarted _ _ | sent hu unstarted _ _ _
  | answered hu unstarted _ _ _ => simp [only hu, resuming] at unstarted
  | stopped hu _ cancelled => simp [only hu, kept] at cancelled
  | @resumed u given hu _ _ same =>
    obtain rfl := only hu
    obtain rfl : given = reply := by simpa [same] using replied
    refine concludes_of_eq (fun k => task?_record _) rfl rfl rfl ?_ rfl
    rw [wire_record, List.map_nil, List.append_nil]

/-! ## Other ways forward -/

/-- A change of one task takes it forward. -/
theorem advances_update (n : Nat) (change : Task → Task) (m : Machine) :
    Advances n change [] [] m (m.update n change) where
  task := by rw [task?_update, if_pos rfl]
  others k other := by rw [task?_update, if_neg other]
  latest := latest_update _
  isOpen := isOpen_update _
  log := by rw [log_update, List.append_nil]
  wire := by rw [wire_update, List.map_nil, List.append_nil]

/-- **A task that starts without its reply** waits, if its request leaves. -/
theorem advances_of_sent (setup : Setup) {request : Request} (ht : m.task? n = some t)
    (unstarted : t.phase = .unstarted) (kept : t.cancelRequested = false) (none : t.reply = none)
    (leaves : (Exchange.send setup.endpoint m.isOpen t.query).outcome = .ok request) :
    Advances n (fun t => { t with phase := .waiting })
        (Exchange.send setup.endpoint m.isOpen t.query).events [request] m (m.step setup n) ∧
      (m.step setup n).state = m.state := by
  have step : m.step setup n =
      ((m.record (Exchange.send setup.endpoint m.isOpen t.query).events).transmit n
        request).update n fun t => { t with phase := .waiting } := by
    rw [Machine.step, ht]
    simp [unstarted, kept, start, leaves, none]
  rw [step]
  refine ⟨⟨?_, fun k other => ?_, ?_, isOpen_update _, ?_, ?_⟩, ?_⟩
  · rw [task?_update, if_pos rfl, task?_transmit, task?_record]
  · rw [task?_update, if_neg other, task?_transmit, task?_record]
  · rw [latest_update, latest_transmit, latest_record]
  · rw [log_update, log_transmit, log_record]
  · rw [wire_update, wire_transmit, wire_record]
    rfl
  · rw [state_update, state_transmit, state_record]

/-- **The report of an end** is nothing else. -/
theorem advances_settle {ending : Ending} (ht : m.task? n = some t)
    (ended : t.phase = .ended ending) :
    Advances n (fun t => { t with phase := .settled ending }) [] [] m (m.settle n) where
  task := by rw [task?_settle ht ended, ht, Option.map_some]
  others k other := task?_settle_of_ne other
  latest := latest_settle
  isOpen := isOpen_settle
  log := by rw [log_settle, List.append_nil]
  wire := by rw [wire_settle, List.map_nil, List.append_nil]

end Machine

end Submission

end QueryConsole
