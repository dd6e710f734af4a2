import QueryConsole.Submission.Machine
/-!
# Runs

A run is a list of `Action`s: what the program around a machine may do to
it, in any order. `Machine.runFrom` performs them, and `Machine.Reachable`
says which machines some run leads to. `run` and `close` wait until what
they wait for has happened; where something else is done meanwhile, they
are taken apart into `submit`, `watch`, `cancel` and single turns.
-/

namespace QueryConsole.Submission

/-- A change of the state that is not a submission's. -/
inductive Edit
  | setText (text : Text)
  | begin
  | reset
  | succeed (result : Json)
  | fail (kind : ErrorKind) (message : Text)
  deriving Repr

/-- What an edit makes of a state. -/
def Edit.apply : Edit → Query.State → Query.State
  | setText text => .setText text
  | begin => .begin
  | reset => .reset
  | succeed result => .succeed result
  | fail kind message => .fail kind message

/-- What may be done to a machine. -/
inductive Action
  | edit (e : Edit)
  | submit (text : Option Text) (reply : Option Reply)
  | release (sequence : Nat) (reply : Reply)
  | cancel (sequence : Nat)
  | watch (sequence : Nat)
  | turn
  | drain
  | run (text : Option Text) (reply : Reply)
  | close
  | closeClient
  deriving Repr

/-- Whether an action leaves the outcome of the state to the submissions. -/
def Action.leavesOutcome : Action → Bool
  | .edit (.setText _) => true
  | .edit _ => false
  | _ => true

namespace Machine

/-- Performs an action. -/
def perform (setup : Setup) (m : Machine) : Action → Machine
  | .edit e => m.edit e.apply
  | .submit text reply => m.submit text reply
  | .release sequence reply => m.release sequence reply
  | .cancel sequence => m.cancel sequence
  | .watch sequence => m.watch sequence
  | .turn => m.turn setup
  | .drain => m.drain setup
  | .run text reply => m.run setup text reply
  | .close => m.close setup
  | .closeClient => m.closeClient

/-- Performs the actions of a run. -/
def runFrom (setup : Setup) (m : Machine) (actions : List Action) : Machine :=
  actions.foldl (perform setup) m

/-- **The machines that some run leads to** from a state without a
submission. -/
def Reachable (setup : Setup) (queryText : Text) (m : Machine) : Prop :=
  ∃ actions : List Action, (new (.new queryText)).runFrom setup actions = m

end Machine

end QueryConsole.Submission
