import QueryConsole.Submission.Task
/-!
# The submission machine

A `Machine` holds the state of the query, every task that was issued, the
jobs that are ready, and what has been logged and sent. The sequence
number of a submission is its place among the tasks, counted from one, and
only the latest submission changes the outcome of the state. `runJob` runs
one job; `drain` runs jobs until none is ready, and `await` until the task
that is waited for has reported its end. A job is ready once, and one that
takes a task forward makes at most two others ready, so that the weight of
the queue bounds the number of jobs.
-/

namespace QueryConsole.Submission

/-- What stays the same while a machine runs. -/
structure Setup where
  endpoint : Endpoint
  messages : Catalog.Messages
  locale : Option Text
  deriving Repr

/-- A request and the submission that sent it. -/
structure Sent where
  sequence : Nat
  request : Request
  deriving DecidableEq, Repr

/-- Submissions and the state that they share. -/
structure Machine where
  state : Query.State
  tasks : List Task
  queue : List Job
  isOpen : Bool
  log : List Event
  wire : List Sent
  deriving Repr

/-- The text that a refusal is shown with. -/
def describeRefusal (setup : Setup) (refusal : Refusal) : Except Catalog.Fault Text :=
  let describe := setup.messages.describe
  match refusal with
  | .httpStatus status =>
    describe "errors.http_status" setup.locale [("status_code", .int status)]
  | .parse message => describe "errors.parse" setup.locale [("detail", .text message)]
  | .general message => describe "errors.transport" setup.locale [("detail", .text message)]
  | .transport message => describe "errors.transport" setup.locale [("detail", .text message)]

/-- The text that a crash is shown with. -/
def describeCrash (setup : Setup) (crash : Crash) : Except Catalog.Fault Text :=
  setup.messages.describe "errors.unexpected" setup.locale [("detail", .text crash.detail)]

namespace Machine

/-- A machine before any submission. -/
def new (state : Query.State) : Machine :=
  ⟨state, [], [], true, [], []⟩

/-- The sequence number of the latest submission; zero before the first. -/
def latest (m : Machine) : Nat := m.tasks.length

/-- The task with a sequence number. -/
def task? (m : Machine) : Nat → Option Task
  | 0 => none
  | i + 1 => m.tasks[i]?

/-- Changes the task with a sequence number. -/
def update (sequence : Nat) (change : Task → Task) (m : Machine) : Machine :=
  match sequence with
  | 0 => m
  | i + 1 => { m with tasks := m.tasks.modify i change }

/-- Makes a job ready, after those that already are. -/
def enqueue (job : Job) (m : Machine) : Machine :=
  { m with queue := m.queue ++ [job] }

/-- Logs events. -/
def record (events : List Event) (m : Machine) : Machine :=
  { m with log := m.log ++ events }

/-- The request of a submission leaves. -/
def transmit (sequence : Nat) (request : Request) (m : Machine) : Machine :=
  { m with wire := m.wire ++ [Sent.mk sequence request] }

/-- The number of tasks that have not ended. -/
def inFlight (m : Machine) : Nat :=
  m.tasks.countP fun t => !t.isDone

/-- The number of tasks whose end has not been reported. -/
def tracked (m : Machine) : Nat :=
  m.tasks.countP fun t => !t.isSettled

/-! ## Jobs -/

/-- A task ends: its end is to be reported, and then to whoever waits for
it. -/
def finish (sequence : Nat) (ending : Ending) (m : Machine) : Machine :=
  let awaited := (m.task? sequence).any Task.awaited
  let m := (m.update sequence fun t => { t with phase := .ended ending }).enqueue
    (.settle sequence)
  if awaited then m.enqueue (.wake sequence) else m

/-- The outcome of a submission changes the state if no newer submission
has been issued; otherwise it is dropped, which is logged. -/
def apply (sequence : Nat) (change : Query.State → Query.State) (m : Machine) : Machine :=
  if sequence = m.latest then { m with state := change m.state }
  else m.record [.superseded sequence m.latest]

/-- A task comes to its end with what its exchange came to. -/
def conclude (setup : Setup) (sequence : Nat) (outcome : Except Failure Json) (m : Machine) :
    Machine :=
  match outcome with
  | .ok result =>
    ((m.record [.succeeded sequence]).apply sequence (.succeed result)).finish sequence .completed
  | .error (.refused refusal) =>
    match describeRefusal setup refusal with
    | .ok message =>
      ((m.record [.failed sequence refusal]).apply sequence
        (.fail refusal.kind message)).finish sequence .completed
    | .error fault => m.finish sequence (.escaped fault)
  | .error (.cancelled message) =>
    (m.record [.cancelled sequence]).finish sequence (.cancelled message)
  | .error (.crashed crash) =>
    let m := m.record [.crashed sequence crash]
    match describeCrash setup crash with
    | .ok message =>
      (m.apply sequence (.fail .transport message)).finish sequence .completed
    | .error fault => m.finish sequence (.escaped fault)

/-- A task goes on with its reply. -/
def receive (setup : Setup) (sequence : Nat) (reply : Reply) (m : Machine) : Machine :=
  let stage := Exchange.receive setup.endpoint reply
  (m.record stage.events).conclude setup sequence stage.outcome

/-- A task starts: it sends its request, and goes on at once if the reply
is there. -/
def start (setup : Setup) (sequence : Nat) (task : Task) (m : Machine) : Machine :=
  let stage := Exchange.send setup.endpoint m.isOpen task.query
  let m := m.record stage.events
  match stage.outcome with
  | .error failure => m.conclude setup sequence (.error failure)
  | .ok request =>
    let m := m.transmit sequence request
    match task.reply with
    | some reply => m.receive setup sequence reply
    | none => m.update sequence fun t => { t with phase := .waiting }

/-- Takes a task to its next wait or to its end. A task that was cancelled
before it started ends without a trace. -/
def step (setup : Setup) (sequence : Nat) (m : Machine) : Machine :=
  match m.task? sequence with
  | none => m
  | some task =>
    match task.phase with
    | .unstarted =>
      if task.cancelRequested then m.finish sequence (.cancelled none)
      else m.start setup sequence task
    | .resuming =>
      if task.cancelRequested then m.conclude setup sequence (.error (.cancelled none))
      else
        match task.reply with
        | some reply => m.receive setup sequence reply
        | none => m
    | _ => m

/-- Reports the end of a task. If it was the latest and was cancelled, the
state no longer waits for it. -/
def settle (sequence : Nat) (m : Machine) : Machine :=
  match m.task? sequence with
  | none => m
  | some task =>
    match task.phase with
    | .ended ending =>
      let m := m.update sequence fun t => { t with phase := .settled ending }
      match ending with
      | .cancelled _ =>
        if sequence = m.latest ∧ m.state.isLoading then { m with state := m.state.reset } else m
      | _ => m
    | _ => m

/-- Runs a job. -/
def runJob (setup : Setup) (job : Job) (m : Machine) : Machine :=
  match job with
  | .step sequence => m.step setup sequence
  | .settle sequence => m.settle sequence
  | .wake _ => m

/-- Runs the job that became ready first, if any is. -/
def turn (setup : Setup) (m : Machine) : Machine :=
  match m.queue with
  | [] => m
  | job :: rest => runJob setup job { m with queue := rest }

/-- A bound on the jobs that run until none is ready. -/
def weight (m : Machine) : Nat :=
  m.queue.foldl (fun n job => n + job.weight) 0

/-- Runs jobs, at most `fuel` of them. -/
def turns (setup : Setup) : Nat → Machine → Machine
  | 0, m => m
  | fuel + 1, m => turns setup fuel (m.turn setup)

/-- **Runs jobs until none is ready.** -/
def drain (setup : Setup) (m : Machine) : Machine :=
  m.turns setup m.weight

/-- Runs jobs, at most `fuel` of them, up to the one that lets the one who
waits for a task go on. -/
def turnsUntilWake (setup : Setup) (sequence : Nat) : Nat → Machine → Machine
  | 0, m => m
  | fuel + 1, m =>
    if m.queue.head? = some (.wake sequence) then m.turn setup
    else turnsUntilWake setup sequence fuel (m.turn setup)

/-! ## What is done to a machine -/

/-- Issues a submission: of the given text, or else of the text of the
query. The state loads from then on. -/
def submit (text : Option Text) (reply : Option Reply) (m : Machine) : Machine :=
  let query := text.getD m.state.queryText
  let sequence := m.latest + 1
  ({ m with
      state := m.state.begin
      tasks := m.tasks ++ [Task.new query reply] }.record
    [.started sequence query.length]).enqueue (.step sequence)

/-- Provides the reply for a task. A task that waits for it becomes ready;
until the task goes on, a later reply takes the place of an earlier one. -/
def release (sequence : Nat) (reply : Reply) (m : Machine) : Machine :=
  match m.task? sequence with
  | none => m
  | some task =>
    match task.phase with
    | .unstarted => m.update sequence fun t => { t with reply := some reply }
    | .resuming => m.update sequence fun t => { t with reply := some reply }
    | .waiting =>
      (m.update sequence fun t => { t with reply := some reply, phase := .resuming }).enqueue
        (.step sequence)
    | _ => m

/-- Whether a task can still be cancelled. -/
def canCancel (sequence : Nat) (m : Machine) : Bool :=
  (m.task? sequence).any fun t => !t.isDone

/-- Asks a task to end as cancelled. A task that waits becomes ready; one
that is ready ends when its turn comes. -/
def cancel (sequence : Nat) (m : Machine) : Machine :=
  match m.task? sequence with
  | none => m
  | some task =>
    match task.phase with
    | .unstarted => m.update sequence fun t => { t with cancelRequested := true }
    | .resuming => m.update sequence fun t => { t with cancelRequested := true }
    | .waiting =>
      (m.update sequence fun t =>
        { t with cancelRequested := true, phase := .resuming }).enqueue (.step sequence)
    | _ => m

/-- Someone begins to wait for the end of a task. -/
def watch (sequence : Nat) (m : Machine) : Machine :=
  m.update sequence fun t => { t with awaited := true }

/-- Waits for the end of a task. -/
def await (setup : Setup) (sequence : Nat) (m : Machine) : Machine :=
  match m.task? sequence with
  | none => m
  | some task =>
    if task.isDone then m
    else
      let m := m.watch sequence
      m.turnsUntilWake setup sequence m.weight

/-- Issues a submission and waits for its end. -/
def run (setup : Setup) (text : Option Text) (reply : Reply) (m : Machine) : Machine :=
  let m := m.submit text (some reply)
  m.await setup m.latest

/-- The sequence numbers of the tasks that have not ended. -/
def pending (m : Machine) : List Nat :=
  (List.range m.latest).filterMap fun i =>
    if m.canCancel (i + 1) then some (i + 1) else none

/-- Cancels every task that has not ended and waits for all of them. The
last of them reports its end after everything that was ready before, so
that nothing is ready any more then. -/
def close (setup : Setup) (m : Machine) : Machine :=
  if m.pending.isEmpty then m
  else (m.pending.foldl (fun m sequence => m.cancel sequence) m).drain setup

/-- Closes the client: no later task can send its request. -/
def closeClient (m : Machine) : Machine :=
  { m with isOpen := false }

/-- Changes the state directly. -/
def edit (change : Query.State → Query.State) (m : Machine) : Machine :=
  { m with state := change m.state }

end Machine

/-- A submission outside of the loop that runs jobs is refused. -/
inductive SubmitFault
  | noRunningLoop
  deriving DecidableEq, Repr

/-- The message of a refused submission. -/
def SubmitFault.message : SubmitFault → Text
  | noRunningLoop => "no running event loop"

/-- Issues a submission if the loop that runs jobs is running; otherwise
nothing changes. -/
def Machine.submitIfRunning (running : Bool) (text : Option Text) (reply : Option Reply)
    (m : Machine) : Except SubmitFault Machine :=
  if running then .ok (m.submit text reply) else .error .noRunningLoop

end QueryConsole.Submission
