import QueryConsole.Proofs.Submission.Job
/-!
# Runs, move by move

Running until nothing is ready, issuing a submission and waiting for it,
and closing are made of single moves: those of the program around a
machine, and one turn of the loop. `Machine.moves` takes a run apart into
its moves, and `runFrom_moves` says that they lead where the run leads. A
`Moment` is a place in a run between two moves, with the machine that the
run has come to there; what changes in the course of a run changes at a
moment (`exists_moment`).
-/

namespace QueryConsole.Submission

/-- Whether an action is a single move. -/
def Action.isMove : Action → Bool
  | .drain => false
  | .run _ _ => false
  | .close => false
  | _ => true

namespace Machine

variable {setup : Setup} {m : Machine} {actions : List Action}

/-- The turns, at most `fuel` of them, up to the one that lets the one who
waits for a task go on. -/
def turnsToWake (setup : Setup) (sequence : Nat) : Nat → Machine → Nat
  | 0, _ => 0
  | fuel + 1, m =>
    if m.queue.head? = some (.wake sequence) then 1
    else turnsToWake setup sequence fuel (m.turn setup) + 1

/-- The cancellation of everything that is pending. -/
def cancellations (m : Machine) : List Action :=
  m.pending.map .cancel

/-- The moves that an action is made of, done to a machine. -/
def movesOf (setup : Setup) (m : Machine) : Action → List Action
  | .drain => List.replicate m.weight .turn
  | .run text reply =>
    let sequence := m.latest + 1
    let issued := (m.submit text (some reply)).watch sequence
    .submit text (some reply) :: .watch sequence ::
      List.replicate (turnsToWake setup sequence issued.weight issued) .turn
  | .close =>
    if m.pending.isEmpty then []
    else m.cancellations ++
      List.replicate (m.runFrom setup m.cancellations).weight .turn
  | a => [a]

/-- **The moves that a run is made of.** -/
def moves (setup : Setup) : Machine → List Action → List Action
  | _, [] => []
  | m, a :: rest => m.movesOf setup a ++ moves setup (m.perform setup a) rest

/-! ## The moves of an action -/

theorem runFrom_cons (a : Action) (rest : List Action) :
    m.runFrom setup (a :: rest) = (m.perform setup a).runFrom setup rest := rfl

theorem runFrom_append (before after : List Action) :
    m.runFrom setup (before ++ after) = (m.runFrom setup before).runFrom setup after :=
  List.foldl_append

/-- Turns are single moves. -/
theorem turns_eq (fuel : Nat) (m : Machine) :
    m.turns setup fuel = m.runFrom setup (List.replicate fuel .turn) := by
  induction fuel generalizing m with
  | zero => rfl
  | succ fuel ih => exact ih _

/-- So is the wait for a task. -/
theorem turnsUntilWake_eq (n fuel : Nat) (m : Machine) :
    m.turnsUntilWake setup n fuel =
      m.runFrom setup (List.replicate (turnsToWake setup n fuel m) .turn) := by
  induction fuel generalizing m with
  | zero => rfl
  | succ fuel ih =>
    rw [turnsUntilWake, turnsToWake]
    split
    · rfl
    · rw [ih]
      rfl

/-- **The moves of an action do what the action does.** -/
theorem runFrom_movesOf (m : Machine) (a : Action) :
    m.runFrom setup (m.movesOf setup a) = m.perform setup a := by
  cases a with
  | drain => exact (turns_eq _ _).symm
  | run text reply =>
    have issued : (m.submit text (some reply)).task? (m.latest + 1) =
        some (Task.new (text.getD m.state.queryText) (some reply)) := by
      rw [task?_submit, if_pos rfl]
    rw [perform, run, await, latest_submit, issued]
    exact (turnsUntilWake_eq _ _ _).symm
  | close =>
    rw [perform, close, movesOf]
    split
    · rfl
    · have cancelled : m.pending.foldl (fun m n => m.cancel n) m =
          m.runFrom setup m.cancellations := by
        rw [runFrom, cancellations, List.foldl_map]
        rfl
      rw [cancelled, drain, turns_eq, runFrom_append]
  | edit _ | submit _ _ | release _ _ | cancel _ | watch _ | turn | closeClient => rfl

/-- Each of them is one. -/
theorem isMove_of_mem_movesOf {a b : Action} (h : b ∈ m.movesOf setup a) : b.isMove = true := by
  cases a with
  | drain => rw [List.eq_of_mem_replicate h]; rfl
  | run text reply =>
    simp only [movesOf, List.mem_cons, List.mem_replicate] at h
    rcases h with rfl | rfl | ⟨-, rfl⟩ <;> rfl
  | close =>
    rw [movesOf] at h
    split at h
    · simp at h
    · simp only [cancellations, List.mem_append, List.mem_map, List.mem_replicate] at h
      rcases h with ⟨n, -, rfl⟩ | ⟨-, rfl⟩ <;> rfl
  | edit _ | submit _ _ | release _ _ | cancel _ | watch _ | turn | closeClient =>
    rw [List.mem_singleton.1 h]
    rfl

/-- An action that is made of edits is an edit. -/
theorem edit_of_mem_movesOf {a : Action} {e : Edit} (h : .edit e ∈ m.movesOf setup a) :
    a = .edit e := by
  cases a with
  | drain => simp [movesOf] at h
  | run text reply => simp [movesOf] at h
  | close =>
    rw [movesOf] at h
    split at h <;> simp [cancellations] at h
  | edit _ | submit _ _ | release _ _ | cancel _ | watch _ | turn | closeClient =>
    exact (List.mem_singleton.1 h).symm

/-! ## The moves of a run -/

/-- **The moves of a run lead where the run leads.** -/
theorem runFrom_moves (m : Machine) (actions : List Action) :
    m.runFrom setup (m.moves setup actions) = m.runFrom setup actions := by
  induction actions generalizing m with
  | nil => rfl
  | cons a rest ih => rw [moves, runFrom_append, runFrom_movesOf, ih, runFrom_cons]

theorem isMove_of_mem_moves {b : Action} (h : b ∈ m.moves setup actions) : b.isMove = true := by
  induction actions generalizing m with
  | nil => simp [moves] at h
  | cons a rest ih =>
    rcases List.mem_append.1 h with first | later
    · exact isMove_of_mem_movesOf first
    · exact ih later

/-- The edits among the moves of a run are the edits of the run. -/
theorem edit_of_mem_moves {e : Edit} (h : .edit e ∈ m.moves setup actions) :
    .edit e ∈ actions := by
  induction actions generalizing m with
  | nil => simp [moves] at h
  | cons a rest ih =>
    rcases List.mem_append.1 h with first | later
    · rw [edit_of_mem_movesOf first]
      exact List.mem_cons_self
    · exact List.mem_cons_of_mem _ (ih later)

/-- What every move keeps is kept by a list of moves. -/
theorem runFrom_of_perform {P : Machine → Prop}
    (step : ∀ (m : Machine) (a : Action), a.isMove = true → P m → P (m.perform setup a))
    {moves : List Action} (single : ∀ a ∈ moves, a.isMove = true) (h : P m) :
    P (m.runFrom setup moves) := by
  induction moves generalizing m with
  | nil => exact h
  | cons a rest ih =>
    exact ih (fun b mem => single b (List.mem_cons_of_mem a mem))
      (step m a (single a List.mem_cons_self) h)

/-- **What every move keeps, every run keeps.** -/
theorem runFrom_of_kept {P : Machine → Prop}
    (step : ∀ (m : Machine) (a : Action), a.isMove = true → P m → P (m.perform setup a))
    (h : P m) (actions : List Action) : P (m.runFrom setup actions) := by
  rw [← runFrom_moves]
  exact runFrom_of_perform step (fun _ => isMove_of_mem_moves) h

/-! ## Moments -/

/-- **A moment of a run**: what has been done, the move that comes next, and
what is done after it. -/
structure Moment (setup : Setup) (start : Machine) (actions : List Action) where
  before : List Action
  move : Action
  after : List Action
  eq : start.moves setup actions = before ++ move :: after

namespace Moment

variable {start : Machine}

/-- The machine at a moment. -/
def machine (h : Moment setup start actions) : Machine :=
  start.runFrom setup h.before

/-- The machine after the move that comes next. -/
def next (h : Moment setup start actions) : Machine :=
  h.machine.perform setup h.move

theorem runFrom_next (h : Moment setup start actions) :
    h.next.runFrom setup h.after = start.runFrom setup actions := by
  rw [← runFrom_moves start actions, h.eq, runFrom_append, runFrom_cons]
  rfl

theorem mem_before (h : Moment setup start actions) {a : Action} (mem : a ∈ h.before) :
    a ∈ start.moves setup actions :=
  h.eq ▸ List.mem_append_left _ mem

theorem mem_after (h : Moment setup start actions) {a : Action} (mem : a ∈ h.after) :
    a ∈ start.moves setup actions :=
  h.eq ▸ List.mem_append_right _ (List.mem_cons_of_mem _ mem)

theorem isMove (h : Moment setup start actions) : h.move.isMove = true :=
  isMove_of_mem_moves (h.eq ▸ List.mem_append_right _ List.mem_cons_self)

variable {P : Machine → Prop}

/-- What every move keeps holds at every moment. -/
theorem machine_of_perform
    (step : ∀ (m : Machine) (a : Action), a.isMove = true → P m → P (m.perform setup a))
    (first : P start) (h : Moment setup start actions) : P h.machine :=
  runFrom_of_perform step (fun _ mem => isMove_of_mem_moves (h.mem_before mem)) first

/-- And from a moment on it holds in the end. -/
theorem runFrom_of_next
    (step : ∀ (m : Machine) (a : Action), a.isMove = true → P m → P (m.perform setup a))
    (h : Moment setup start actions) (next : P h.next) : P (start.runFrom setup actions) := by
  rw [← h.runFrom_next]
  exact runFrom_of_perform step (fun _ mem => isMove_of_mem_moves (h.mem_after mem)) next

end Moment

/-- **What changes in the course of a run changes at a moment of it.** -/
theorem exists_moment {start : Machine} {P : Machine → Prop} (no : ¬ P start)
    (yes : P (start.runFrom setup actions)) :
    ∃ h : Moment setup start actions, ¬ P h.machine ∧ P h.next := by
  have crossing (moves : List Action) (m : Machine) (no : ¬ P m) (yes : P (m.runFrom setup moves)) :
      ∃ before move after, moves = before ++ move :: after ∧
        ¬ P (m.runFrom setup before) ∧ P ((m.runFrom setup before).perform setup move) := by
    induction moves generalizing m with
    | nil => exact absurd yes no
    | cons a rest ih =>
      by_cases now : P (m.perform setup a)
      · exact ⟨[], a, rest, rfl, no, now⟩
      · obtain ⟨before, move, after, eq, earlier, later⟩ := ih _ now yes
        exact ⟨a :: before, move, after, by rw [eq]; rfl, earlier, later⟩
  rw [← runFrom_moves] at yes
  obtain ⟨before, move, after, eq, earlier, later⟩ := crossing _ start no yes
  exact ⟨⟨before, move, after, eq⟩, earlier, later⟩

end Machine

end QueryConsole.Submission
