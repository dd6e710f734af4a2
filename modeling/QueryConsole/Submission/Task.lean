import QueryConsole.Catalog.Messages
import QueryConsole.Endpoint.Exchange
/-!
# Submission tasks

A `Task` is one submission on its way: issued, waiting for its reply,
about to go on, ended. Tasks are taken forward by `Job`s, which run one
after another in the order they were made ready.
-/

namespace QueryConsole.Submission

/-- How a task ends. `escaped` is a fault that arose while its failure was
being described. -/
inductive Ending
  | completed
  | cancelled (message : Option Text)
  | escaped (fault : Catalog.Fault)
  deriving DecidableEq, Repr

/-- How far a task has come. Between `ended` and `settled` its end is known
but has not been reported. -/
inductive Phase
  | unstarted
  | waiting
  | resuming
  | ended (ending : Ending)
  | settled (ending : Ending)
  deriving DecidableEq, Repr

/-- A submission on its way. -/
structure Task where
  query : Text
  reply : Option Reply
  phase : Phase
  cancelRequested : Bool
  awaited : Bool
  deriving DecidableEq, Repr

namespace Task

/-- A task as it is issued; the reply may be there from the start. -/
def new (query : Text) (reply : Option Reply) : Task :=
  ⟨query, reply, .unstarted, false, false⟩

/-- How the task has ended, if it has. -/
def ending? (t : Task) : Option Ending :=
  match t.phase with
  | .ended ending => some ending
  | .settled ending => some ending
  | _ => none

/-- Whether the task has ended. -/
def isDone (t : Task) : Bool := t.ending?.isSome

/-- Whether the end of the task has been reported. -/
def isSettled (t : Task) : Bool :=
  match t.phase with
  | .settled _ => true
  | _ => false

end Task

/-- A piece of work that is ready: to take a task to its next wait or its
end, to report its end, or to let the one who waits for it go on. -/
inductive Job
  | step (sequence : Nat)
  | settle (sequence : Nat)
  | wake (sequence : Nat)
  deriving DecidableEq, Repr

/-- The most jobs that come of one job, itself included. -/
def Job.weight : Job → Nat
  | step _ => 3
  | settle _ => 1
  | wake _ => 1

end QueryConsole.Submission
