import QueryConsole.Proofs.Submission.Course
import QueryConsole.Proofs.Submission.LatestWins
/-!
# The log accounts for every submission

The events of the log that are about one submission are its `account`. It
is opened when the submission is issued, nothing is added to it until the
task ends, and nothing afterwards (`account_of_not_stepped`); what is added
at the end is `closing`, which `log_conclude` reads off the end of an
exchange. `account_of_submission` puts this together for a whole run.
-/

namespace QueryConsole

/-- The submission that an event is about. -/
def Event.sequence? : Event → Option Nat
  | starting _ _ => none
  | endpointRequest _ _ => none
  | endpointResponse _ _ => none
  | started sequence _ => some sequence
  | succeeded sequence => some sequence
  | failed sequence _ => some sequence
  | cancelled sequence => some sequence
  | crashed sequence _ => some sequence
  | superseded sequence _ => some sequence

namespace Submission

/-- The event that says what an exchange came to. -/
def verdict (n : Nat) : Except Failure Json → Event
  | .ok _ => .succeeded n
  | .error (.refused refusal) => .failed n refusal
  | .error (.crashed crash) => .crashed n crash
  | .error (.cancelled _) => .cancelled n

/-- The event that says that an outcome was dropped, as it is where a newer
submission has been issued. -/
def superseding (n latest : Nat) : List Event :=
  if n = latest then [] else [.superseded n latest]

/-- What is logged when the exchange of a submission is over. A failure that
cannot be described is not told, unless it is a crash. -/
def closing (setup : Setup) (n latest : Nat) : Except Failure Json → List Event
  | .ok _ => .succeeded n :: superseding n latest
  | .error (.cancelled _) => [.cancelled n]
  | .error (.refused refusal) =>
    match describeRefusal setup refusal with
    | .ok _ => .failed n refusal :: superseding n latest
    | .error _ => []
  | .error (.crashed crash) =>
    .crashed n crash ::
      match describeCrash setup crash with
      | .ok _ => superseding n latest
      | .error _ => []

variable {setup : Setup} {n k : Nat}

theorem sequence?_superseding {latest : Nat} : ∀ e ∈ superseding n latest, e.sequence? = some n := by
  intro e mem
  rw [superseding] at mem
  split at mem
  · simp at mem
  · rw [List.mem_singleton.1 mem]
    rfl

/-- All of it is about the submission. -/
theorem sequence?_closing {latest : Nat} (outcome : Except Failure Json) :
    ∀ e ∈ closing setup n latest outcome, e.sequence? = some n := by
  have about (first : Event) (h : first.sequence? = some n) :
      ∀ e ∈ first :: superseding n latest, e.sequence? = some n := by
    intro e mem
    rcases List.mem_cons.1 mem with rfl | mem
    · exact h
    · exact sequence?_superseding e mem
  match outcome with
  | .ok result => exact about _ rfl
  | .error (.cancelled message) => simp [closing, Event.sequence?]
  | .error (.refused refusal) =>
    rw [closing]
    cases describeRefusal setup refusal with
    | ok _ => exact about _ rfl
    | error _ => simp
  | .error (.crashed crash) =>
    rw [closing]
    cases describeCrash setup crash with
    | ok _ => exact about _ rfl
    | error _ => simp [Event.sequence?]

/-- **A task from which no fault escapes closes its account with its
verdict**, and with what becomes of its outcome unless it was cancelled. -/
theorem closing_eq {latest : Nat} {outcome : Except Failure Json}
    (own : ∀ fault, endingOf setup outcome ≠ .escaped fault) :
    closing setup n latest outcome = verdict n outcome ::
      if verdict n outcome = .cancelled n then [] else superseding n latest := by
  match outcome with
  | .ok result => simp [closing, verdict]
  | .error (.cancelled message) => simp [closing, verdict]
  | .error (.refused refusal) =>
    cases h : describeRefusal setup refusal with
    | ok message => simp [closing, verdict, h]
    | error fault => exact absurd (by simp [endingOf, describe?, h]) (own fault)
  | .error (.crashed crash) =>
    cases h : describeCrash setup crash with
    | ok message => simp [closing, verdict, h]
    | error fault => exact absurd (by simp [endingOf, describe?, h]) (own fault)

/-- The verdict tells whether a task was cancelled. -/
theorem verdict_eq_cancelled_iff (setup : Setup) {outcome : Except Failure Json} :
    verdict n outcome = .cancelled n ↔
      ∃ message, endingOf setup outcome = .cancelled message := by
  match outcome with
  | .ok result => simp [verdict, endingOf]
  | .error (.cancelled message) => simp [verdict, endingOf]
  | .error (.refused refusal) =>
    cases h : describeRefusal setup refusal <;> simp [verdict, endingOf, describe?, h]
  | .error (.crashed crash) =>
    cases h : describeCrash setup crash <;> simp [verdict, endingOf, describe?, h]

namespace Machine

variable {m m' : Machine} {a : Action} {t : Task}

/-- **The account of a submission**: the events of the log that are about
it. -/
def account (n : Nat) (m : Machine) : List Event :=
  m.log.filter fun e => e.sequence? == some n

theorem account_congr (h : m'.log = m.log) (k : Nat) : m'.account k = m.account k := by
  rw [account, account, h]

/-- What is logged about a submission goes to its account. -/
theorem account_append_own {events : List Event} (log : m'.log = m.log ++ events)
    (own : ∀ e ∈ events, e.sequence? = some n) : m'.account n = m.account n ++ events := by
  have kept : events.filter (fun e => e.sequence? == some n) = events :=
    List.filter_eq_self.2 fun e mem => by simp [own e mem]
  rw [account, log, List.filter_append, kept, account]

/-- And what is about another or none does not. -/
theorem account_append_other {events : List Event} (log : m'.log = m.log ++ events)
    (other : ∀ e ∈ events, e.sequence? ≠ some k) : m'.account k = m.account k := by
  have dropped : events.filter (fun e => e.sequence? == some k) = [] :=
    List.filter_eq_nil_iff.2 fun e mem => by simpa using other e mem
  rw [account, log, List.filter_append, dropped, List.append_nil, account]

/-! ## The end of an exchange -/

theorem log_apply (change : Query.State → Query.State) :
    (m.apply n change).log = m.log ++ superseding n m.latest := by
  rw [apply, superseding]
  split
  · exact (List.append_nil _).symm
  · rfl

/-- **What the end of an exchange logs.** -/
theorem log_conclude (outcome : Except Failure Json) :
    (m.conclude setup n outcome).log = m.log ++ closing setup n m.latest outcome := by
  match outcome with
  | .ok result =>
    rw [conclude, log_finish, log_apply, log_record, latest_record, List.append_assoc]
    rfl
  | .error (.cancelled message) => rw [conclude, log_finish, log_record, closing]
  | .error (.refused refusal) =>
    cases h : describeRefusal setup refusal with
    | ok message =>
      simp only [conclude, h, closing, log_finish, log_apply, log_record, latest_record,
        List.append_assoc, List.singleton_append]
    | error fault => simp only [conclude, h, closing, log_finish, List.append_nil]
  | .error (.crashed crash) =>
    cases h : describeCrash setup crash with
    | ok message =>
      simp only [conclude, h, closing, log_finish, log_apply, log_record, latest_record,
        List.append_assoc, List.singleton_append]
    | error fault => simp only [conclude, h, closing, log_finish, log_record]

/-- What an exchange logs is about no submission. -/
theorem sequence?_send (endpoint : Endpoint) (isOpen : Bool) (query : Text) :
    ∀ e ∈ (Exchange.send endpoint isOpen query).events, e.sequence? = none := by
  simp [Exchange.send, Event.sequence?]

theorem sequence?_receive (endpoint : Endpoint) (reply : Reply) :
    ∀ e ∈ (Exchange.receive endpoint reply).events, e.sequence? = none := by
  cases reply <;> simp [Exchange.receive, Event.sequence?]

/-! ## Steps -/

/-- **How a step ends a task**: the task was cancelled before it started,
which leaves no trace, or its exchange is over. -/
theorem ended_by_step (ht : m.task? n = some t) (under : t.isDone = false) {t' : Task}
    (ht' : (m.step setup n).task? n = some t') (done : t'.isDone = true) :
    (t.phase = .unstarted ∧ t.cancelRequested = true ∧
      m.step setup n = m.finish n (.cancelled none)) ∨
    (¬ (t.phase = .unstarted ∧ t.cancelRequested = true) ∧
      ∃ (m' : Machine) (outcome : Except Failure Json) (events : List Event),
        m.step setup n = m'.conclude setup n outcome ∧ m'.task? n = some t ∧
        m'.latest = m.latest ∧ m'.state = m.state ∧ m'.log = m.log ++ events ∧
        ∀ e ∈ events, e.sequence? = none) := by
  have cases := stepped setup n m
  generalize m.step setup n = m' at cases ht' ⊢
  cases cases with
  | idle _ =>
    obtain rfl : t = t' := by simpa [ht] using ht'
    simp [under] at done
  | @dropped u hu hp hc =>
    obtain rfl : t = u := by simpa [hu] using ht.symm
    exact .inl ⟨hp, hc, rfl⟩
  | @unsent u failure hu hp hc hs =>
    obtain rfl : t = u := by simpa [hu] using ht.symm
    exact .inr ⟨by simp [hc], _, _, _, rfl, by rw [task?_record, ht], rfl, rfl, rfl,
      sequence?_send _ _ _⟩
  | @sent u request hu hp hc hs hr =>
    rw [task?_update, if_pos rfl, task?_transmit, task?_record, hu] at ht'
    obtain rfl := Option.some.inj ht'
    simp [Task.isDone, Task.ending?] at done
  | @answered u request reply hu hp hc hs hr =>
    obtain rfl : t = u := by simpa [hu] using ht.symm
    refine .inr ⟨by simp [hc], _, _, (Exchange.send setup.endpoint m.isOpen t.query).events ++
      (Exchange.receive setup.endpoint reply).events, rfl,
      by rw [task?_record, task?_transmit, task?_record, ht], rfl, rfl, ?_, ?_⟩
    · rw [log_record, log_transmit, log_record, List.append_assoc]
    · intro e mem
      rcases List.mem_append.1 mem with sent | received
      · exact sequence?_send _ _ _ e sent
      · exact sequence?_receive _ _ e received
  | @stopped u hu hp hc =>
    obtain rfl : t = u := by simpa [hu] using ht.symm
    exact .inr ⟨by simp [hp], m, _, [], rfl, ht, rfl, rfl, (List.append_nil _).symm, by simp⟩
  | @resumed u reply hu hp hc hr =>
    obtain rfl : t = u := by simpa [hu] using ht.symm
    exact .inr ⟨by simp [hp], _, _, _, rfl, by rw [task?_record, ht], rfl, rfl, rfl,
      sequence?_receive _ _⟩

/-- A step that does not end its task logs nothing about any submission. -/
theorem account_of_under {t' : Task} (ht' : (m.step setup n).task? n = some t')
    (under : t'.isDone = false) (k : Nat) : (m.step setup n).account k = m.account k := by
  have ends {phase : Phase} {m' : Machine} {t : Task}
      (ht : m'.task? n = some t) (h : m'.task? n = some t') (hp : t.phase = phase)
      (done : ∃ e, phase = .ended e) : False := by
    obtain ⟨e, rfl⟩ := done
    obtain rfl : t = t' := by simpa [ht] using h
    simp [Task.isDone, Task.ending?, hp] at under
  have cases := stepped setup n m
  generalize m.step setup n = m' at cases ht' ⊢
  cases cases with
  | idle _ => rfl
  | @sent t _ _ _ _ _ _ =>
    have silent : ∀ e ∈ (Exchange.send setup.endpoint m.isOpen t.query).events,
        e.sequence? ≠ some k := fun e mem => by simp [sequence?_send _ _ _ e mem]
    exact account_append_other (by rw [log_update, log_transmit, log_record]) silent
  | dropped hu _ _ =>
    exact (ends (by rw [task?_finish, if_pos rfl, hu]; rfl) ht' rfl ⟨_, rfl⟩).elim
  | unsent hu _ _ _ =>
    exact (ends (by rw [task?_conclude, if_pos rfl, task?_record, hu]; rfl) ht' rfl
      ⟨_, rfl⟩).elim
  | answered hu _ _ _ _ =>
    exact (ends (by rw [task?_receive, if_pos rfl, task?_transmit, task?_record, hu]; rfl) ht' rfl
      ⟨_, rfl⟩).elim
  | stopped hu _ _ =>
    exact (ends (by rw [task?_conclude, if_pos rfl, hu]; rfl) ht' rfl ⟨_, rfl⟩).elim
  | resumed hu _ _ _ =>
    exact (ends (by rw [task?_receive, if_pos rfl, hu]; rfl) ht' rfl ⟨_, rfl⟩).elim

/-- The step of another task logs nothing about a submission. -/
theorem account_step_of_ne (other : k ≠ n) : (m.step setup n).account k = m.account k := by
  have own {events : List Event} (h : ∀ e ∈ events, e.sequence? = some n) :
      ∀ e ∈ events, e.sequence? ≠ some k := by
    intro e mem
    rw [h e mem]
    exact fun same => other (Option.some.inj same).symm
  have none {events : List Event} (h : ∀ e ∈ events, e.sequence? = .none) :
      ∀ e ∈ events, e.sequence? ≠ some k := by
    intro e mem
    simp [h e mem]
  have concluded (m : Machine) (outcome : Except Failure Json) :
      (m.conclude setup n outcome).account k = m.account k :=
    account_append_other (log_conclude outcome) (own (sequence?_closing outcome))
  have sent (m : Machine) (query : Text) :
      (m.record (Exchange.send setup.endpoint m.isOpen query).events).account k = m.account k :=
    account_append_other rfl (none (sequence?_send _ _ _))
  have received (m : Machine) (reply : Reply) :
      (m.receive setup n reply).account k = m.account k :=
    (concluded _ _).trans (account_append_other rfl (none (sequence?_receive _ _)))
  have cases := stepped setup n m
  generalize m.step setup n = m' at cases
  cases cases with
  | idle _ => rfl
  | dropped _ _ _ => exact account_congr (log_finish _) k
  | unsent _ _ _ _ => exact (concluded _ _).trans (sent _ _)
  | sent _ _ _ _ _ => exact (account_congr (log_update _) k).trans (sent _ _)
  | answered _ _ _ _ _ => exact (received _ _).trans (sent _ _)
  | stopped _ _ _ => exact concluded _ _
  | resumed _ _ _ _ => exact received _ _

/-! ## Moves -/

/-- **Nothing is added to the account of a submission** unless it is issued or
its task makes a step. -/
theorem account_of_not_stepped (single : a.isMove = true) (other : ¬ StepsNext k a m)
    (old : ∀ text reply, a = .submit text reply → k ≠ m.latest + 1) :
    (m.perform setup a).account k = m.account k := by
  cases a with
  | edit e => rfl
  | submit text reply =>
    refine account_append_other (log_submit text reply) fun e mem same => ?_
    rw [List.mem_singleton.1 mem] at same
    exact old text reply rfl (Option.some.inj same).symm
  | release n reply => exact account_congr (prodded_release n reply m).log k
  | cancel n => exact account_congr (prodded_cancel n m).log k
  | watch n => exact account_congr (prodded_watch n m).log k
  | turn =>
    rw [perform]
    rcases turn_eq setup m with idle | ⟨job, head, run⟩
    · rw [idle]
    · rw [run]
      cases job with
      | step n => exact account_step_of_ne fun same => other ⟨rfl, same ▸ head⟩
      | settle n => exact account_congr log_settle k
      | wake n => rfl
  | closeClient => rfl
  | drain | run _ _ | close => simp [Action.isMove] at single

/-- A submission opens the account of its task. -/
theorem account_submit (text : Option Text) (reply : Option Reply) :
    (m.submit text reply).account (m.latest + 1) = m.account (m.latest + 1) ++
      [.started (m.latest + 1) (text.getD m.state.queryText).length] :=
  account_append_own (log_submit text reply) (by simp [Event.sequence?])

/-- **What the accounts are until the tasks have ended**: there is none for
a submission that has not been issued, and otherwise it holds the beginning
alone. -/
structure Accounted (m : Machine) : Prop where
  unissued : ∀ n, m.latest < n → m.account n = []
  under : ∀ n t, m.task? n = some t → t.isDone = false →
    m.account n = [.started n t.query.length]

/-- Every move keeps the accounts so. -/
theorem Accounted.perform (h : Accounted m) (single : a.isMove = true) :
    Accounted (m.perform setup a) := by
  refine ⟨fun n later => ?_, fun n t' ht' under => ?_⟩
  · have unissued : m.latest < n := by
      rcases latest_perform setup m single with ⟨text, reply, rfl⟩ | same
      · rw [Machine.perform, latest_submit] at later
        omega
      · rwa [same] at later
    by_cases own : StepsNext n a m
    · -- there is no task to step
      have absent : m.popped.task? n = none := by
        rw [task?_popped]
        exact task?_eq_none.2 (.inr unissued)
      rw [own.perform, step, absent]
      exact h.unissued n unissued
    · rw [account_of_not_stepped single own, h.unissued n unissued]
      rintro text reply rfl
      rw [Machine.perform, latest_submit] at later
      omega
  · cases ht : m.task? n with
    | none =>
      obtain ⟨text, reply, rfl, rfl⟩ := submitted_of_task single ht ht'
      rw [Machine.perform, task?_submit, if_pos rfl] at ht'
      rw [Machine.perform, account_submit, h.unissued _ (Nat.lt_succ_self _),
        ← Option.some.inj ht']
      rfl
    | some t =>
      have issued := (task?_isSome.1 (Option.isSome_iff_exists.2 ⟨t, ht⟩)).2
      obtain ⟨u, hu, becomes⟩ := task_of_perform setup single ht
      obtain rfl : t' = u := by simpa [ht'] using hu
      have under' : t.isDone = false := by
        cases done : t.isDone with
        | false => rfl
        | true => exact absurd (becomes.isDone done) (by simp [under])
      have same : (m.perform setup a).account n = m.account n := by
        by_cases own : StepsNext n a m
        · rw [own.perform] at ht' ⊢
          exact account_of_under ht' under n
        · exact account_of_not_stepped single own fun _ _ _ => by omega
      rw [same, h.under n t ht under', becomes.query]

/-- **Once a task has ended, nothing is added to its account.** -/
theorem account_of_isDone (single : a.isMove = true) (ht : m.task? n = some t)
    (done : t.isDone = true) : (m.perform setup a).account n = m.account n := by
  have issued := (task?_isSome.1 (Option.isSome_iff_exists.2 ⟨t, ht⟩)).2
  by_cases own : StepsNext n a m
  · rw [own.perform, step_of_isDone (by rw [task?_popped, ht]) done]
    rfl
  · exact account_of_not_stepped single own fun _ _ _ => by omega

/-! ## Runs -/

theorem accounted_new (state : Query.State) : Accounted (new state) where
  unissued _ _ := rfl
  under n t ht _ := by
    have absent : (new state).task? n = none := task?_eq_none.2 (Nat.eq_zero_or_pos n)
    simp [absent] at ht

/-- **What the step that ends a task adds to its account.** Nothing if the
task was cancelled before it started; otherwise the verdict, and where a
newer submission has been issued and the task was not cancelled, that its
outcome was dropped. The state is changed by the latest submission alone. -/
theorem account_of_ended (ht : m.task? n = some t) (under : t.isDone = false) {t' : Task}
    (ht' : (m.step setup n).task? n = some t') (done : t'.isDone = true)
    (own : ∀ fault, t'.ending? ≠ some (.escaped fault)) :
    (t.phase = .unstarted ∧ t.cancelRequested = true ∧ t'.ending? = some (.cancelled none) ∧
      (m.step setup n).log = m.log) ∨
    (¬ (t.phase = .unstarted ∧ t.cancelRequested = true) ∧
      ∃ outcome, t'.ending? = some (endingOf setup outcome) ∧
        (m.step setup n).account n = m.account n ++ verdict n outcome ::
          (if verdict n outcome = .cancelled n then [] else superseding n m.latest) ∧
        (m.step setup n).state = if n = m.latest then
          { m.state with outcome := (shown? setup outcome).getD m.state.outcome } else m.state) := by
  rcases ended_by_step ht under ht' done with
    ⟨hp, hc, step⟩ | ⟨entered, m', outcome, events, step, tasks, latest, state, log, none⟩
  · rw [step, task?_finish, if_pos rfl, ht] at ht'
    obtain rfl := Option.some.inj ht'
    exact .inl ⟨hp, hc, rfl, by rw [step, log_finish]⟩
  · rw [step, task?_conclude, if_pos rfl, tasks] at ht'
    obtain rfl := Option.some.inj ht'
    refine .inr ⟨entered, outcome, rfl, ?_, ?_⟩
    · have before : m'.account n = m.account n :=
        account_append_other log fun e mem => by simp [none e mem]
      rw [step, account_append_own (log_conclude outcome) (sequence?_closing outcome), before,
        latest, closing_eq fun fault same => own fault (by rw [← same]; rfl)]
    · obtain ⟨m'', heq, -, -, -, -, concluded⟩ := conclude_eq setup n m' outcome
      rw [step, heq, state_finish, concluded, latest, state]

/-- **The log accounts for every submission.** After any run in which nobody
edits the outcome, and for a submission whose failure, if it came to one,
can be described: its beginning is logged at the moment of the submission,
with the length of its query, and is all there is until its task has ended.
If the task was cancelled before it started, nothing is added. Otherwise
the verdict is added when the task ends, which is that of a cancellation
exactly if the task ended cancelled; and after it, unless it is that of a
cancellation, that the outcome was dropped, exactly if a newer submission
had been issued at that moment, with the number of the latest then. An
outcome that was dropped has not changed the state, and any other is what
the state shows. -/
theorem account_of_submission (setup : Setup) (queryText : Text) (actions : List Action)
    (ordinary : ∀ a ∈ actions, a.leavesOutcome = true) (m : Machine)
    (run : (new (.new queryText)).runFrom setup actions = m) (n : Nat) (t : Task)
    (issued : m.task? n = some t)
    (described : ∀ failure fault, m.exchange? setup n = some (.error failure) →
      describe? setup failure ≠ some (.error fault)) :
    (∃ (h : Moment setup (new (.new queryText)) actions) (text : Option Text)
        (reply : Option Reply),
      h.move = .submit text reply ∧ h.machine.latest + 1 = n ∧
      t.query = text.getD h.machine.state.queryText ∧
      h.machine.account n = [] ∧ h.next.account n = [.started n t.query.length]) ∧
    (t.isDone = false → m.account n = [.started n t.query.length]) ∧
    (t.isDone = true →
      ∃ (h : Moment setup (new (.new queryText)) actions) (t₁ t₂ : Task),
        StepsNext n h.move h.machine ∧ h.machine.task? n = some t₁ ∧ t₁.isDone = false ∧
        h.next.task? n = some t₂ ∧ t₂.ending? = t.ending? ∧
        ((t₁.phase = .unstarted ∧ t₁.cancelRequested = true ∧
            t.ending? = some (.cancelled none) ∧ h.next.log = h.machine.log ∧
            m.account n = [.started n t.query.length]) ∨
          (¬ (t₁.phase = .unstarted ∧ t₁.cancelRequested = true) ∧
            ∃ outcome, t.ending? = some (endingOf setup outcome) ∧
              (verdict n outcome = .cancelled n ↔
                ∃ message, t.ending? = some (.cancelled message)) ∧
              m.account n = .started n t.query.length :: verdict n outcome ::
                (if verdict n outcome ≠ .cancelled n ∧ n < h.machine.latest then
                  [.superseded n h.machine.latest] else []) ∧
              (n < h.machine.latest → h.next.state = h.machine.state) ∧
              (n = h.machine.latest → h.next.state.outcome =
                (shown? setup outcome).getD h.machine.state.outcome)))) := by
  have coherent := coherent_runFrom setup queryText ordinary
  have fresh : (new (.new queryText)).task? n = none :=
    task?_eq_none.2 (Nat.eq_zero_or_pos n)
  have accounted (h : Moment setup (new (.new queryText)) actions) : Accounted h.machine :=
    h.machine_of_perform (fun _ _ single kept => kept.perform single) (accounted_new _)
  rw [run] at coherent
  subst run
  refine ⟨?_, fun under => ?_, fun done => ?_⟩
  · have positive := (task?_isSome.1 (Option.isSome_iff_exists.2 ⟨t, issued⟩)).1
    obtain ⟨h, text, reply, move, next, query⟩ := exists_submitted positive issued
    have unissued : h.machine.account n = [] := (accounted h).unissued n (by omega)
    refine ⟨h, text, reply, move, next, query, unissued, ?_⟩
    subst next
    rw [Moment.next, move, perform, account_submit, unissued, query]
    rfl
  · exact (runFrom_of_kept (P := Accounted) (fun _ _ single kept => kept.perform single)
      (accounted_new _) actions).under n t issued under
  · obtain ⟨h, t₁, t₂, own, ht₁, under, ht₂, over₂, becomes, later⟩ :=
      exists_ended fresh issued done
    -- what the step that ends the task leaves is what there is in the end
    have account : (Machine.runFrom setup (new (.new queryText)) actions).account n =
        h.next.account n := by
      refine (h.runFrom_of_next (P := fun m => m.account n = h.next.account n ∧
        ∃ t, m.task? n = some t ∧ t.isDone = true) ?_ ⟨rfl, t₂, ht₂, over₂⟩).1
      rintro m a single ⟨same, u, hu, done⟩
      obtain ⟨u', hu', becomes⟩ := task_of_perform setup single hu
      exact ⟨(account_of_isDone single hu done).trans same, u', hu', becomes.isDone done⟩
    have ending : t₂.ending? = t.ending? := by
      obtain ⟨e, ended⟩ := Task.isDone_iff.1 over₂
      rw [ended, later.ending e ended]
    have describable : ∀ fault, t₂.ending? ≠ some (.escaped fault) := by
      intro fault escaped
      rcases coherent.ending issued (ending ▸ escaped) with ⟨_, same⟩ | ⟨outcome, exchanged, same⟩
      · simp at same
      · obtain ⟨failure, rfl, hd⟩ := endingOf_eq_escaped.1 same.symm
        exact described failure fault ((exchange?_eq issued).trans exchanged) hd
    have opened : h.machine.account n = [.started n t.query.length] := by
      rw [(accounted h).under n t₁ ht₁ under, ← becomes.query, ← later.query]
    have latest : n ≤ h.machine.latest :=
      (task?_isSome.1 (Option.isSome_iff_exists.2 ⟨t₁, ht₁⟩)).2
    refine ⟨h, t₁, t₂, own, ht₁, under, ht₂, ending, ?_⟩
    have next : h.next = h.machine.popped.step setup n := own.perform
    rw [account, next]
    rw [next] at ht₂
    rcases account_of_ended (by rw [task?_popped, ht₁]) under ht₂ over₂ describable with
      ⟨hp, hc, cancelled, log⟩ | ⟨entered, outcome, ended, added, state⟩
    · refine .inl ⟨hp, hc, ending ▸ cancelled, log, ?_⟩
      rw [account_congr log, ← opened]
      rfl
    · refine .inr ⟨entered, outcome, ending ▸ ended, ?_, ?_, fun newer => ?_, fun last => ?_⟩
      · rw [verdict_eq_cancelled_iff setup, ← ending, ended]
        simp
      · rw [added, account_congr log_popped, opened, superseding, latest_popped,
          List.singleton_append]
        by_cases cancelled : verdict n outcome = .cancelled n
        · simp [cancelled]
        · by_cases last : n = h.machine.latest
          · rw [if_neg cancelled, if_pos last, if_neg (by omega)]
          · rw [if_neg cancelled, if_neg last, if_pos ⟨cancelled, by omega⟩]
      · rw [state, latest_popped, if_neg (by omega), state_popped]
      · rw [state, latest_popped, if_pos last, state_popped]

theorem account_of_submission_overlapping :
    ∃ h : Moment ⟨⟨[], .zero⟩, ⟨.empty, "en"⟩, none⟩ (new (.new [])) overlapping,
      StepsNext 1 h.move h.machine ∧ 1 < h.machine.latest ∧ h.next.state = h.machine.state := by
  obtain ⟨-, -, ended⟩ := account_of_submission ⟨⟨[], .zero⟩, ⟨.empty, "en"⟩, none⟩ [] overlapping
    (by decide) _ rfl 1 _ rfl (fun failure fault failed => absurd (Option.some.inj failed)
      (by rintro ⟨⟩))
  obtain ⟨h, t₁, t₂, own, -, -, -, -, cases⟩ := ended rfl
  -- three events are logged for the first submission, so the third is there
  have logged : (((new (.new [])).runFrom ⟨⟨[], .zero⟩, ⟨.empty, "en"⟩, none⟩ overlapping).account
    1).length = 3 := by decide
  rcases cases with ⟨-, -, -, -, account⟩ | ⟨-, outcome, -, -, account, dropped, -⟩
  · simp [account] at logged
  · split at account
    · next older => exact ⟨h, own, older.2, dropped older.2⟩
    · simp [account] at logged

end Machine

end Submission

end QueryConsole
