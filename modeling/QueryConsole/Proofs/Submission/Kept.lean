import QueryConsole.Proofs.Submission.Moves
/-!
# Induction over runs

What every single move keeps holds of all machines that a run leads to, and
of all that it passes on the way. `Kept` lists the moves, those of the
program around a machine and one turn of the loop; of direct changes only
that of the text is among them. `Kept.runFrom_of_edits` is the induction,
over the moves of a run, and `Kept.runFrom` the case of a run in which
nobody edits the outcome.
-/

namespace QueryConsole.Submission.Machine

variable {setup : Setup} {m : Machine} {actions : List Action}

/-- **Each single move of a run keeps a property of machines**, direct
changes of the outcome aside. -/
structure Kept (setup : Setup) (P : Machine → Prop) : Prop where
  setText : ∀ (m : Machine) (text : Text), P m → P (m.edit (.setText text))
  submit : ∀ (m : Machine) (text : Option Text) (reply : Option Reply), P m →
    P (m.submit text reply)
  release : ∀ (m : Machine) (n : Nat) (reply : Reply), P m → P (m.release n reply)
  cancel : ∀ (m : Machine) (n : Nat), P m → P (m.cancel n)
  watch : ∀ (m : Machine) (n : Nat), P m → P (m.watch n)
  turn : ∀ m : Machine, P m → P (m.turn setup)
  closeClient : ∀ m : Machine, P m → P m.closeClient

namespace Kept

variable {P : Machine → Prop}

/-- What every move keeps, and every edit that is made, is kept by a list of
moves. -/
theorem moves (kept : Kept setup P) {moves : List Action}
    (single : ∀ a ∈ moves, a.isMove = true)
    (edits : ∀ e, .edit e ∈ moves → ∀ m : Machine, P m → P (m.edit e.apply)) (h : P m) :
    P (m.runFrom setup moves) := by
  induction moves generalizing m with
  | nil => exact h
  | cons a rest ih =>
    refine ih (fun b mem => single b (List.mem_cons_of_mem a mem))
      (fun e mem => edits e (List.mem_cons_of_mem a mem)) ?_
    cases a with
    | edit e => exact edits e List.mem_cons_self m h
    | submit text reply => exact kept.submit m text reply h
    | release n reply => exact kept.release m n reply h
    | cancel n => exact kept.cancel m n h
    | watch n => exact kept.watch m n h
    | turn => exact kept.turn m h
    | closeClient => exact kept.closeClient m h
    | drain | run _ _ | close => exact absurd (single _ List.mem_cons_self) (by simp [Action.isMove])

/-- **So every run keeps it** whose edits do. -/
theorem runFrom_of_edits (kept : Kept setup P)
    (edits : ∀ e, .edit e ∈ actions → ∀ m : Machine, P m → P (m.edit e.apply)) (h : P m) :
    P (m.runFrom setup actions) := by
  rw [← runFrom_moves]
  exact kept.moves (fun _ => isMove_of_mem_moves) (fun e mem => edits e (edit_of_mem_moves mem)) h

/-- An edit that leaves the outcome is one of the text. -/
theorem edit (kept : Kept setup P) {e : Edit} (ordinary : (Action.edit e).leavesOutcome = true)
    (h : P m) : P (m.edit e.apply) := by
  cases e with
  | setText text => exact kept.setText m text h
  | begin | reset | succeed _ | fail _ _ => exact absurd ordinary (by simp [Action.leavesOutcome])

/-- **And so does every run** in which nobody edits the outcome. -/
theorem runFrom (kept : Kept setup P) (ordinary : ∀ a ∈ actions, a.leavesOutcome = true)
    (h : P m) : P (m.runFrom setup actions) :=
  kept.runFrom_of_edits (fun _ mem _ => kept.edit (ordinary _ mem)) h

end Kept

end QueryConsole.Submission.Machine
