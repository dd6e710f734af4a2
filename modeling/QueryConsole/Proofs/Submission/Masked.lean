import QueryConsole.Proofs.Submission.Job
import QueryConsole.Proofs.Text.Utf8
/-!
# Machines behind a mask

A `Mask` puts other texts in the place of the queries of a machine and other
replies in the place of its replies. It keeps what an exchange can tell of
them: the length of a text, whether it can be encoded, and what comes of a
reply. Then nothing that a machine does can tell more. Masking commutes with
every job and with everything that is done to a machine (`masked_perform`),
and so with whole runs (`masked_runFrom`); the log, the queue and the outcome
are never masked. So two runs that look the same behind a mask agree in all
of these.
-/

namespace QueryConsole.Submission

/-- **Other texts and replies**, of which an exchange tells the same; `body`
is what becomes of the bytes of a query. -/
structure Mask where
  text : Text → Text
  body : Bytes → Bytes
  reply : Reply → Reply
  length_text : ∀ t, (text t).length = t.length
  encodeScalars_text : ∀ t, Utf8.encodeScalars (text t) = (Utf8.encodeScalars t).map body
  receive_reply : ∀ endpoint r, Exchange.receive endpoint (reply r) = Exchange.receive endpoint r

namespace Mask

variable (k : Mask)

/-- A request behind a mask. -/
def request (r : Request) : Request :=
  { r with body := k.body r.body }

/-- A request that was sent, behind a mask. -/
def sent (s : Sent) : Sent :=
  { s with request := k.request s.request }

/-- A state behind a mask. -/
def state (s : Query.State) : Query.State :=
  { s with queryText := k.text s.queryText }

/-- A task behind a mask. -/
def task (t : Task) : Task :=
  { t with query := k.text t.query, reply := t.reply.map k.reply }

/-- **A machine behind a mask.** -/
def machine (m : Machine) : Machine :=
  { m with
    state := k.state m.state
    tasks := m.tasks.map k.task
    wire := m.wire.map k.sent }

/-- A change of the state behind a mask. -/
def edit : Edit → Edit
  | .setText t => .setText (k.text t)
  | e => e

/-- **An action behind a mask.** -/
def action : Action → Action
  | .edit e => .edit (k.edit e)
  | .submit text reply => .submit (text.map k.text) (reply.map k.reply)
  | .release n reply => .release n (k.reply reply)
  | .run text reply => .run (text.map k.text) (k.reply reply)
  | a => a

/-- **Sending tells the length of a text**, and whether it can be encoded. -/
theorem send_text (endpoint : Endpoint) (isOpen : Bool) (query : Text) :
    Exchange.send endpoint isOpen (k.text query) =
      ⟨(Exchange.send endpoint isOpen query).events,
        (Exchange.send endpoint isOpen query).outcome.map k.request⟩ := by
  simp only [Exchange.send, k.length_text, k.encodeScalars_text]
  cases Utf8.encodeScalars query with
  | error fault => rfl
  | ok body =>
    cases isOpen <;> rfl

end Mask

namespace Machine

variable {setup : Setup} {m : Machine} {n : Nat} (k : Mask)

/-! ## Single operations -/

@[simp] theorem latest_masked : (k.machine m).latest = m.latest := List.length_map _

@[simp] theorem task?_masked : (k.machine m).task? n = (m.task? n).map k.task := by
  cases n with
  | zero => rfl
  | succ i => exact List.getElem?_map

/-- A change of a task behind a mask. -/
theorem masked_update {change change' : Task → Task}
    (same : ∀ t, k.task (change t) = change' (k.task t)) :
    k.machine (m.update n change) = (k.machine m).update n change' := by
  cases n with
  | zero => rfl
  | succ i =>
    have tasks : (m.tasks.modify i change).map k.task = (m.tasks.map k.task).modify i change' := by
      -- position by position, since the changes differ on either side
      refine List.ext_getElem? fun j => ?_
      rw [List.getElem?_map, List.getElem?_modify, List.getElem?_modify, List.getElem?_map]
      cases m.tasks[j]? with
      | none => rfl
      | some t => split <;> simp [same]
    simp only [Mask.machine, update, tasks]

/-- A phase is never masked. -/
@[simp] theorem masked_phase (phase : Phase) :
    k.machine (m.update n fun t => { t with phase }) =
      (k.machine m).update n fun t => { t with phase } :=
  masked_update k fun _ => rfl

@[simp] theorem masked_enqueue (job : Job) :
    k.machine (m.enqueue job) = (k.machine m).enqueue job := rfl

@[simp] theorem masked_record (events : List Event) :
    k.machine (m.record events) = (k.machine m).record events := rfl

@[simp] theorem masked_transmit (request : Request) :
    k.machine (m.transmit n request) = (k.machine m).transmit n (k.request request) := by
  simp [Mask.machine, transmit, Mask.sent]

@[simp] theorem masked_finish (ending : Ending) :
    k.machine (m.finish n ending) = (k.machine m).finish n ending := by
  have awaited : ((k.machine m).task? n).any Task.awaited = (m.task? n).any Task.awaited := by
    rw [task?_masked, Option.any_map]
    rfl
  rw [finish, finish, awaited]
  split <;> simp only [masked_enqueue, masked_phase]

/-- A change of the state that masking commutes with. -/
theorem masked_apply {change : Query.State → Query.State}
    (same : ∀ s, k.state (change s) = change (k.state s)) :
    k.machine (m.apply n change) = (k.machine m).apply n change := by
  rw [apply, apply, latest_masked]
  split
  · simp only [Mask.machine, same]
  · rfl

@[simp] theorem masked_succeed (result : Json) :
    k.machine (m.apply n (.succeed result)) = (k.machine m).apply n (.succeed result) :=
  masked_apply k fun _ => rfl

@[simp] theorem masked_fail (kind : ErrorKind) (message : Text) :
    k.machine (m.apply n (.fail kind message)) = (k.machine m).apply n (.fail kind message) :=
  masked_apply k fun _ => rfl

@[simp] theorem masked_conclude (outcome : Except Failure Json) :
    k.machine (m.conclude setup n outcome) = (k.machine m).conclude setup n outcome := by
  match outcome with
  | .ok result => simp [conclude]
  | .error (.cancelled message) => simp [conclude]
  | .error (.refused refusal) =>
    rw [conclude, conclude]
    cases describeRefusal setup refusal <;> simp
  | .error (.crashed crash) =>
    rw [conclude, conclude]
    cases describeCrash setup crash <;> simp

/-- **What comes of a reply** is the same behind the mask. -/
@[simp] theorem masked_receive (reply : Reply) :
    k.machine (m.receive setup n reply) = (k.machine m).receive setup n (k.reply reply) := by
  rw [receive, receive, k.receive_reply, masked_conclude, masked_record]

/-! ## Jobs -/

/-- **A task starts** the same way behind the mask. -/
@[simp] theorem masked_start (t : Task) :
    k.machine (m.start setup n t) = (k.machine m).start setup n (k.task t) := by
  have isOpen : (k.machine m).isOpen = m.isOpen := rfl
  have query : (k.task t).query = k.text t.query := rfl
  have reply : (k.task t).reply = t.reply.map k.reply := rfl
  simp only [start, isOpen, query, reply, k.send_text]
  cases (Exchange.send setup.endpoint m.isOpen t.query).outcome with
  | error failure => simp [Except.map]
  | ok request => cases t.reply <;> simp [Except.map]

@[simp] theorem masked_step : k.machine (m.step setup n) = (k.machine m).step setup n := by
  rw [step, step, task?_masked]
  cases m.task? n with
  | none => rfl
  | some t =>
    have phase : (k.task t).phase = t.phase := rfl
    have asked : (k.task t).cancelRequested = t.cancelRequested := rfl
    have reply : (k.task t).reply = t.reply.map k.reply := rfl
    simp only [Option.map_some, phase, asked, reply]
    cases t.phase with
    | unstarted =>
      dsimp only
      split <;> simp
    | resuming =>
      dsimp only
      split
      · simp
      · cases t.reply <;> simp
    | waiting | ended _ | settled _ => rfl

@[simp] theorem masked_settle : k.machine (m.settle n) = (k.machine m).settle n := by
  rw [settle, settle, task?_masked]
  cases m.task? n with
  | none => rfl
  | some t =>
    have phase : (k.task t).phase = t.phase := rfl
    simp only [Option.map_some, phase]
    cases t.phase with
    | ended ending =>
      -- the report of a cancelled task asks whether the state is loading
      have loading : ((k.machine m).update n fun t => { t with phase := .settled ending }).state.isLoading =
          (m.update n fun t => { t with phase := .settled ending }).state.isLoading := by
        rw [state_update, state_update]
        rfl
      cases ending with
      | cancelled message =>
        simp only [latest_update, latest_masked, loading]
        split
        · simp only [← masked_phase]
          rfl
        · simp
      | completed | escaped _ => simp
    | unstarted | waiting | resuming | settled _ => rfl

@[simp] theorem masked_runJob (job : Job) :
    k.machine (m.runJob setup job) = (k.machine m).runJob setup job := by
  cases job <;> simp [runJob]

/-- **A turn of the loop** is the same behind the mask. -/
@[simp] theorem masked_turn : k.machine (m.turn setup) = (k.machine m).turn setup := by
  have queue : (k.machine m).queue = m.queue := rfl
  rw [turn, turn, queue]
  cases m.queue with
  | nil => rfl
  | cons job rest => exact masked_runJob k job

theorem weight_masked : (k.machine m).weight = m.weight := rfl

@[simp] theorem masked_turns (fuel : Nat) :
    k.machine (m.turns setup fuel) = (k.machine m).turns setup fuel := by
  induction fuel generalizing m with
  | zero => rfl
  | succ fuel ih => rw [turns, turns, ih, masked_turn]

@[simp] theorem masked_turnsUntilWake (fuel : Nat) :
    k.machine (m.turnsUntilWake setup n fuel) = (k.machine m).turnsUntilWake setup n fuel := by
  have queue (m : Machine) : (k.machine m).queue = m.queue := rfl
  induction fuel generalizing m with
  | zero => rfl
  | succ fuel ih =>
    rw [turnsUntilWake, turnsUntilWake, queue]
    split
    · exact masked_turn k
    · rw [ih, masked_turn]

@[simp] theorem masked_drain : k.machine (m.drain setup) = (k.machine m).drain setup := by
  rw [drain, drain, masked_turns, weight_masked]

/-! ## What is done to a machine -/

/-- **A submission** is logged with the length of its text alone. -/
@[simp] theorem masked_submit (text : Option Text) (reply : Option Reply) :
    k.machine (m.submit text reply) =
      (k.machine m).submit (text.map k.text) (reply.map k.reply) := by
  have query : (text.map k.text).getD (k.machine m).state.queryText =
      k.text (text.getD m.state.queryText) := by
    cases text <;> rfl
  have task (query : Text) : k.task (Task.new query reply) =
      Task.new (k.text query) (reply.map k.reply) := rfl
  rw [submit, submit, query, k.length_text, latest_masked, masked_enqueue, masked_record]
  simp only [Mask.machine, List.map_append, List.map_cons, List.map_nil, task]
  rfl

@[simp] theorem masked_release (reply : Reply) :
    k.machine (m.release n reply) = (k.machine m).release n (k.reply reply) := by
  rw [release, release, task?_masked]
  cases m.task? n with
  | none => rfl
  | some t =>
    have phase : (k.task t).phase = t.phase := rfl
    simp only [Option.map_some, phase]
    cases t.phase with
    | unstarted | resuming => exact masked_update k fun _ => rfl
    | waiting =>
      dsimp only
      rw [masked_enqueue]
      exact congrArg (enqueue _) (masked_update k fun _ => rfl)
    | ended _ | settled _ => rfl

@[simp] theorem masked_cancel : k.machine (m.cancel n) = (k.machine m).cancel n := by
  rw [cancel, cancel, task?_masked]
  cases m.task? n with
  | none => rfl
  | some t =>
    have phase : (k.task t).phase = t.phase := rfl
    simp only [Option.map_some, phase]
    cases t.phase with
    | unstarted | resuming => exact masked_update k fun _ => rfl
    | waiting =>
      dsimp only
      rw [masked_enqueue]
      exact congrArg (enqueue _) (masked_update k fun _ => rfl)
    | ended _ | settled _ => rfl

@[simp] theorem masked_watch : k.machine (m.watch n) = (k.machine m).watch n :=
  masked_update k fun _ => rfl

@[simp] theorem masked_await : k.machine (m.await setup n) = (k.machine m).await setup n := by
  rw [await, await, task?_masked]
  cases m.task? n with
  | none => rfl
  | some t =>
    have done : (k.task t).isDone = t.isDone := rfl
    simp only [Option.map_some, done]
    split
    · rfl
    · rw [masked_turnsUntilWake, masked_watch, ← weight_masked k, masked_watch]

@[simp] theorem masked_run (text : Option Text) (reply : Reply) :
    k.machine (m.run setup text reply) =
      (k.machine m).run setup (text.map k.text) (k.reply reply) := by
  rw [run, run, masked_await, masked_submit, latest_submit, latest_submit, latest_masked]
  rfl

theorem pending_masked : (k.machine m).pending = m.pending := by
  have canCancel (n : Nat) : (k.machine m).canCancel n = m.canCancel n := by
    rw [Machine.canCancel, Machine.canCancel, task?_masked, Option.any_map]
    rfl
  simp only [pending, latest_masked, canCancel]

@[simp] theorem masked_close : k.machine (m.close setup) = (k.machine m).close setup := by
  have cancelled (order : List Nat) (m : Machine) :
      k.machine (order.foldl (fun m n => m.cancel n) m) =
        order.foldl (fun m n => m.cancel n) (k.machine m) := by
    induction order generalizing m with
    | nil => rfl
    | cons n order ih => rw [List.foldl_cons, List.foldl_cons, ih, masked_cancel]
  rw [close, close, pending_masked]
  split
  · rfl
  · rw [masked_drain, cancelled]

@[simp] theorem masked_edit (e : Edit) :
    k.machine (m.edit e.apply) = (k.machine m).edit (k.edit e).apply := by
  cases e <;> rfl

/-! ## Runs -/

/-- **Masking commutes with everything that is done to a machine.** -/
theorem masked_perform (a : Action) :
    k.machine (m.perform setup a) = (k.machine m).perform setup (k.action a) := by
  cases a with
  | edit e => exact masked_edit k e
  | submit text reply => exact masked_submit k text reply
  | release n reply => exact masked_release k reply
  | cancel n => exact masked_cancel k
  | watch n => exact masked_watch k
  | turn => exact masked_turn k
  | drain => exact masked_drain k
  | run text reply => exact masked_run k text reply
  | close => exact masked_close k
  | closeClient => rfl

/-- **And with runs.** -/
theorem masked_runFrom (actions : List Action) :
    k.machine (m.runFrom setup actions) =
      (k.machine m).runFrom setup (actions.map k.action) := by
  induction actions generalizing m with
  | nil => rfl
  | cons a rest ih =>
    show k.machine ((m.perform setup a).runFrom setup rest) =
      ((k.machine m).perform setup (k.action a)).runFrom setup (rest.map k.action)
    rw [ih, masked_perform]

end Machine

end QueryConsole.Submission
