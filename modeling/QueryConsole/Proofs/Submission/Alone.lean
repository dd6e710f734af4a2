import QueryConsole.Proofs.Submission.Ready
/-!
# A submission alone

The first submission to a machine, with its reply at hand and somebody who
waits for it, is over in three turns: the step of its task, the report of
the end, and whoever waits goes on. What it leaves is what the exchange
comes to, executed by itself: `alone_run`.
-/

namespace QueryConsole.Submission

/-- What the state shows of an exchange that was the only one, when its end
has been reported. -/
def leftBy (setup : Setup) : Except Failure Json → Query.Outcome
  | .error (.cancelled _) => .idle
  | outcome => (shown? setup outcome).getD .loading

/-- What is left by an exchange that was not cancelled is what is shown. -/
theorem leftBy_of_not_cancelled {setup : Setup} {outcome : Except Failure Json}
    (h : ∀ message, endingOf setup outcome ≠ .cancelled message) :
    leftBy setup outcome = (shown? setup outcome).getD .loading := by
  match outcome with
  | .error (.cancelled message) => exact absurd rfl (h message)
  | .ok _ | .error (.refused _) | .error (.crashed _) => rfl

/-- A failure that has a description is shown. -/
theorem leftBy_of_described {setup : Setup} {failure : Failure} {message : Text}
    (described : describe? setup failure = some (.ok message)) :
    leftBy setup (.error failure) = .error (shownKind failure) message := by
  cases failure with
  | cancelled _ => simp [describe?] at described
  | refused _ | crashed _ => simp [leftBy, shown?, described]

namespace Machine

variable {setup : Setup} {m : Machine} {n : Nat} {t : Task} {reply : Reply}

/-- **The step of a task whose reply is at hand is a whole exchange**: its
requests leave, the task ends the way the exchange does, and the state shows
it if the submission is the latest. -/
theorem step_answered (setup : Setup) (isOpen : m.isOpen = true) (ht : m.task? n = some t)
    (unstarted : t.phase = .unstarted) (kept : t.cancelRequested = false)
    (answered : t.reply = some reply) :
    let exchange := Exchange.execute setup.endpoint t.query reply
    ∃ m' : Machine, m.step setup n = m'.finish n (endingOf setup exchange.outcome) ∧
      (∀ k, m'.task? k = m.task? k) ∧ m'.latest = m.latest ∧
      m'.wire = m.wire ++ exchange.requests.map (Sent.mk n) ∧ m'.queue = m.queue ∧
      m'.state = if n = m.latest then
        { m.state with outcome := (shown? setup exchange.outcome).getD m.state.outcome }
        else m.state := by
  intro exchange
  have only {u : Task} (hu : m.task? n = some u) : u = t := by simpa [ht] using hu.symm
  have cases := stepped setup n m
  generalize m.step setup n = m' at cases
  cases cases with
  | idle nothing => exact absurd unstarted (nothing t ht).1
  | dropped hu _ cancelled => simp [only hu, kept] at cancelled
  | sent hu _ _ _ none => simp [only hu, answered] at none
  | stopped hu resuming _ | resumed hu resuming _ _ => simp [only hu, unstarted] at resuming
  | @unsent u failure hu _ _ failed =>
    obtain rfl := only hu
    have executed : exchange =
        ⟨(Exchange.send setup.endpoint true u.query).events, [], .error failure⟩ := by
      rw [isOpen] at failed
      simp only [exchange, Exchange.execute, failed]
    obtain ⟨m', heq, tasks, latest, wire, queue, state⟩ := conclude_eq setup n
      (m.record (Exchange.send setup.endpoint m.isOpen u.query).events) (.error failure)
    rw [executed]
    refine ⟨m', heq, fun k => (tasks k).trans (task?_record _), latest, ?_, queue, state⟩
    rw [wire, wire_record, List.map_nil, List.append_nil]
  | @answered u request given hu _ _ sent same =>
    obtain rfl := only hu
    obtain rfl : given = reply := by simpa [same] using answered
    have executed : exchange =
        ⟨(Exchange.send setup.endpoint true u.query).events ++
          (Exchange.receive setup.endpoint given).events, [request],
          (Exchange.receive setup.endpoint given).outcome⟩ := by
      rw [isOpen] at sent
      simp only [exchange, Exchange.execute, sent]
    obtain ⟨m', heq, tasks, latest, wire, queue, state⟩ := conclude_eq setup n
      (((m.record (Exchange.send setup.endpoint m.isOpen u.query).events).transmit n
        request).record (Exchange.receive setup.endpoint given).events)
      (Exchange.receive setup.endpoint given).outcome
    rw [executed]
    refine ⟨m', heq, fun k => (tasks k).trans ?_, latest, ?_, queue, state⟩
    · rw [task?_record, task?_transmit, task?_record]
    · rw [wire, wire_record, wire_transmit, wire_record]
      rfl

/-- **The report of the end of the latest task** leaves what its exchange
came to: a state that a cancelled one left loading is reset. -/
theorem outcome_settle {outcome : Except Failure Json} (ht : m.task? n = some t)
    (ended : t.phase = .ended (endingOf setup outcome)) (latest : n = m.latest)
    (shown : m.state.outcome = (shown? setup outcome).getD .loading) :
    (m.settle n).state.outcome = leftBy setup outcome := by
  have only {u : Task} {ending : Ending} (hu : m.task? n = some u) (hp : u.phase = .ended ending) :
      endingOf setup outcome = ending := by
    obtain rfl : u = t := Option.some.inj (hu.symm.trans ht)
    simpa [ended] using hp
  have cases := settled n m
  generalize m.settle n = m' at cases
  cases cases with
  | idle nothing => exact absurd ended (nothing t ht _)
  | reported hu hp kept =>
    rw [state_update, shown]
    refine (leftBy_of_not_cancelled fun message cancelled => ?_).symm
    -- the state of a cancelled task would be loading still, and be reset
    have idle := kept message ((only hu hp).symm.trans cancelled) latest
    obtain rfl := endingOf_eq_cancelled.1 cancelled
    simp [Query.State.isLoading, Query.State.status, shown, shown?, describe?,
      Query.Outcome.status] at idle
  | reset hu hp _ _ =>
    rw [endingOf_eq_cancelled.1 (only hu hp)]
    rfl

/-- **What a machine is left with by its only submission**, when it is over:
the wire has what the exchange sent, and the state shows what it came to. -/
structure Alone (setup : Setup) (exchange : Exchange.Execution) (m : Machine) : Prop where
  latest : m.latest = 1
  task : ∃ t, m.task? 1 = some t ∧ t.phase = .settled (endingOf setup exchange.outcome)
  wire : m.wire = exchange.requests.map (Sent.mk 1)
  outcome : m.state.outcome = leftBy setup exchange.outcome

variable {exchange : Exchange.Execution}

/-- The report of the end is the last that is left to do. -/
theorem alone_settle (latest : m.latest = 1) (ht : m.task? 1 = some t)
    (ended : t.phase = .ended (endingOf setup exchange.outcome))
    (wire : m.wire = exchange.requests.map (Sent.mk 1))
    (outcome : m.state.outcome = (shown? setup exchange.outcome).getD .loading) :
    Alone setup exchange (m.settle 1) where
  latest := latest_settle.trans latest
  task := ⟨_, task?_settle ht ended, rfl⟩
  wire := wire_settle.trans wire
  outcome := outcome_settle ht ended latest.symm outcome

/-- With nobody left under way there is nothing to close. -/
theorem Alone.close (h : Alone setup exchange m) : m.close setup = m := by
  obtain ⟨t, ht, settled⟩ := h.task
  have none : m.pending = [] := by
    rw [pending, h.latest]
    simp only [List.range_one, List.filterMap_cons, List.filterMap_nil, canCancel, Nat.zero_add, ht]
    simp [Task.isDone, Task.ending?, settled]
  rw [Machine.close, none]
  rfl

/-- **A submission alone is an exchange**, executed and shown. -/
theorem alone_run (setup : Setup) (queryText : Text) (text : Option Text) (reply : Reply) :
    Alone setup (Exchange.execute setup.endpoint (text.getD queryText) reply)
      ((new (.new queryText)).run setup text reply) := by
  let issued := ((new (.new queryText)).submit text (some reply)).watch 1
  let t : Task := { Task.new (text.getD queryText) (some reply) with awaited := true }
  have ht : issued.popped.task? 1 = some t := rfl
  have last : issued.popped.latest = 1 := rfl
  -- the step of the task
  obtain ⟨m₁, step, tasks, latest, wire, queue, state⟩ :=
    step_answered setup (m := issued.popped) rfl ht rfl rfl rfl
  have head₁ : issued.queue.head? = some (.step 1) := rfl
  have turn₁ : issued.turn setup = m₁.finish 1 _ := (turn_of_head setup head₁).trans step
  have queue₁ : (issued.turn setup).queue = [.settle 1, .wake 1] := by
    rw [turn₁, queue_finish, tasks, ht, queue]
    rfl
  -- the report of its end
  have head₂ : (issued.turn setup).queue.head? = some (.settle 1) := by rw [queue₁]; rfl
  have turn₂ : (issued.turn setup).turn setup = (issued.turn setup).popped.settle 1 :=
    turn_of_head setup head₂
  have queue₂ : ((issued.turn setup).turn setup).queue = [.wake 1] := by
    rw [turn₂, queue_settle, popped, queue₁]
    rfl
  have settled : Alone setup (Exchange.execute setup.endpoint (text.getD queryText) reply)
      ((issued.turn setup).turn setup) := by
    rw [turn₂]
    refine alone_settle (t := { t with phase := .ended _ }) ?_ ?_ rfl ?_ ?_
    · rw [latest_popped, turn₁, latest_finish, latest, last]
    · rw [task?_popped, turn₁, task?_finish, if_pos rfl, tasks, ht]
      rfl
    · rw [wire_popped, turn₁, wire_finish, wire]
      rfl
    · rw [state_popped, turn₁, state_finish, state, if_pos last.symm]
      rfl
  -- whoever waits goes on
  have head₃ : ((issued.turn setup).turn setup).queue.head? = some (.wake 1) := by
    rw [queue₂]
    rfl
  have turn₃ : ((issued.turn setup).turn setup).turn setup =
      ((issued.turn setup).turn setup).popped := turn_of_head setup head₃
  have run : (new (.new queryText)).run setup text reply =
      ((issued.turn setup).turn setup).turn setup := by
    have weight : issued.weight = 3 := rfl
    rw [Machine.run, await, latest_submit, task?_submit, if_pos rfl]
    show issued.turnsUntilWake setup 1 issued.weight = _
    rw [weight, turnsUntilWake, if_neg (by simp [head₁]), turnsUntilWake,
      if_neg (by simp [head₂]), turnsUntilWake, if_pos head₃]
  rw [run, turn₃]
  exact ⟨settled.latest, settled.task, settled.wire, settled.outcome⟩

end Machine

end QueryConsole.Submission
