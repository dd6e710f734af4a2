import QueryConsole.Proofs.Endpoint.Rendering
import QueryConsole.Proofs.Query.Fields
import QueryConsole.Proofs.Submission.Course
/-!
# The edits behind a run

Whoever changes the state does so by edits: the program around a machine
directly, and the submissions when an exchange is over or the end of a
cancelled task is reported. Each move of a run makes a few of them
(`edited_by_perform`), and a run makes those of its moves one after another
(`edited_by_run`). No submission sets the text of the query, and a result
that a submission brings was decoded from a reply. So in every state that a
run leads to the fields agree, and what is shown of it follows from them:
`shown_of_run`.
-/

namespace QueryConsole.Submission

/-- The text that an edit sets. -/
def Edit.text? : Edit → Option Text
  | .setText text => some text
  | _ => none

/-- The text that an action sets. -/
def Action.text? : Action → Option Text
  | .edit e => e.text?
  | _ => none

/-- Nothing but an edit sets a text. -/
theorem Action.text?_eq_none {a : Action} (other : ∀ e, a ≠ .edit e) : a.text? = none := by
  cases a with
  | edit e => exact absurd rfl (other e)
  | submit _ _ | release _ _ | cancel _ | watch _ | turn | drain | run _ _ | close
  | closeClient => rfl

/-- **An edit that a submission may make**: it leaves the text of the query
as it is, and a result was decoded from a reply. -/
def Edit.IsOwn : Edit → Prop
  | .setText _ => False
  | .succeed result => Exchange.Decoded result
  | _ => True

theorem Edit.IsOwn.text? {e : Edit} (h : e.IsOwn) : e.text? = none := by
  cases e with
  | setText text => exact h.elim
  | begin | reset | succeed _ | fail _ _ => rfl

/-- Edits leave the text of the query that is set last. -/
theorem queryText_edited (s : Query.State) (edits : List Edit) :
    (s.edited edits).queryText = ((edits.filterMap Edit.text?).getLast?).getD s.queryText := by
  induction edits generalizing s with
  | nil => rfl
  | cons e rest ih =>
    rw [Query.State.edited, List.foldl_cons, ← Query.State.edited, ih]
    cases e with
    | setText text =>
      have sets : (Edit.setText text).text? = some text := rfl
      rw [List.filterMap_cons_some sets, List.getLast?_cons]
      rfl
    | begin | reset | succeed _ | fail _ _ => rfl

/-- A result that edits leave is one that they brought. -/
theorem mem_of_result_edited {s : Query.State} {edits : List Edit} {result : Json}
    (fresh : s.outcome.result? = none) (left : (s.edited edits).outcome.result? = some result) :
    .succeed result ∈ edits := by
  induction edits using List.reverseRecOn with
  | nil => simp [fresh] at left
  | append_singleton before e ih =>
    rw [Query.State.edited_append] at left
    cases e with
    | setText text => exact List.mem_append_left _ (ih left)
    | succeed brought =>
      obtain rfl := Option.some.inj left
      simp
    | begin | reset | fail _ _ => exact absurd left (by rintro ⟨⟩)

/-- **What submissions make of a state**: they make edits of their own. -/
def Owned (s s' : Query.State) : Prop :=
  ∃ edits : List Edit, s.edited edits = s' ∧ ∀ e ∈ edits, e.IsOwn

theorem Owned.refl (s : Query.State) : Owned s s := ⟨[], rfl, by simp⟩

theorem Owned.of_eq {s s' : Query.State} (h : s' = s) : Owned s s' := h ▸ .refl s

theorem Owned.single {e : Edit} (own : e.IsOwn) (s : Query.State) : Owned s (e.apply s) :=
  ⟨[e], rfl, fun _ mem => List.mem_singleton.1 mem ▸ own⟩

namespace Machine

variable {setup : Setup} {m : Machine} {n : Nat} {a : Action}

/-! ## Jobs -/

/-- The end of an exchange is one edit at most. -/
theorem owned_conclude {outcome : Except Failure Json}
    (decoded : ∀ result, outcome = .ok result → Exchange.Decoded result) :
    Owned m.state (m.conclude setup n outcome).state := by
  obtain ⟨m', heq, -, -, -, -, state⟩ := conclude_eq setup n m outcome
  rw [heq, state_finish, state]
  split
  · cases outcome with
    | ok result =>
      exact .single (e := .succeed result) (decoded result rfl) m.state
    | error failure =>
      rw [shown?]
      split
      · next message _ =>
        exact .single (e := .fail (shownKind failure) message) trivial m.state
      · exact .refl m.state
  · exact .refl m.state

theorem owned_receive (reply : Reply) : Owned m.state (m.receive setup n reply).state :=
  owned_conclude (m := m.record _) fun _ => Exchange.decoded_of_receive

theorem owned_step (setup : Setup) (n : Nat) (m : Machine) :
    Owned m.state (m.step setup n).state := by
  have failed (m : Machine) (failure : Failure) :
      Owned m.state (m.conclude setup n (.error failure)).state :=
    owned_conclude fun _ h => by simp at h
  have cases := stepped setup n m
  generalize m.step setup n = m' at cases
  cases cases with
  | idle _ => exact .refl _
  | dropped _ _ _ => exact .of_eq (state_finish _)
  | unsent _ _ _ _ => exact failed (m.record _) _
  | sent _ _ _ _ _ => exact .of_eq (state_update _)
  | @answered _ request reply _ _ _ _ _ =>
    exact owned_receive (m := (m.record _).transmit n request) reply
  | stopped _ _ _ => exact failed m _
  | @resumed _ reply _ _ _ _ => exact owned_receive reply

/-- The report of an end resets the state at most. -/
theorem owned_settle (n : Nat) (m : Machine) : Owned m.state (m.settle n).state := by
  have cases := settled n m
  generalize m.settle n = m' at cases
  cases cases with
  | idle _ => exact .refl _
  | reported _ _ _ => exact .of_eq (state_update _)
  | reset _ _ _ _ => exact .single (e := .reset) trivial m.state

/-! ## Moves -/

/-- **What a move makes of the state**: the edit that it is, or edits of the
submissions. -/
theorem edited_by_perform (setup : Setup) (m : Machine) (single : a.isMove = true) :
    (∃ e, a = .edit e ∧ (m.perform setup a).state = e.apply m.state) ∨
      ((∀ e, a ≠ .edit e) ∧ Owned m.state (m.perform setup a).state) := by
  cases a with
  | edit e => exact .inl ⟨e, rfl, rfl⟩
  -- a submission itself begins, and everything else it does is done by its jobs
  | submit text reply => exact .inr ⟨by simp, .single (e := .begin) trivial m.state⟩
  | release k reply => exact .inr ⟨by simp, .of_eq (prodded_release k reply m).state⟩
  | cancel k => exact .inr ⟨by simp, .of_eq (prodded_cancel k m).state⟩
  | watch k => exact .inr ⟨by simp, .of_eq (prodded_watch k m).state⟩
  | turn =>
    refine .inr ⟨by simp, ?_⟩
    rw [perform]
    rcases turn_eq setup m with idle | ⟨job, head, run⟩
    · rw [idle]
      exact .refl _
    · rw [run]
      cases job with
      | step k => exact owned_step setup k m.popped
      | settle k => exact owned_settle k m.popped
      | wake k => exact .refl _
  | closeClient => exact .inr ⟨by simp, .refl _⟩
  | drain | run _ _ | close => simp [Action.isMove] at single

/-! ## Runs -/

/-- **The edits behind a list of actions**: the direct ones among them, in
order, and others of the submissions. -/
structure Behind (edits : List Edit) (actions : List Action) : Prop where
  texts : edits.filterMap Edit.text? = actions.filterMap Action.text?
  results : ∀ result, .succeed result ∈ edits →
    .edit (.succeed result) ∈ actions ∨ Exchange.Decoded result

/-- Direct edits are behind themselves. -/
theorem Behind.edit {edits : List Edit} {actions : List Action} (h : Behind edits actions)
    (e : Edit) : Behind (e :: edits) (.edit e :: actions) where
  texts := by
    rw [List.filterMap_cons, List.filterMap_cons, h.texts]
    rfl
  results result mem := by
    rcases List.mem_cons.1 mem with rfl | later
    · exact .inl List.mem_cons_self
    · exact (h.results result later).imp_left (List.mem_cons_of_mem _)

/-- And edits of the submissions are behind any other action. -/
theorem Behind.own {edits own : List Edit} {actions : List Action} (h : Behind edits actions)
    (other : ∀ e, a ≠ .edit e) (owned : ∀ e ∈ own, e.IsOwn) :
    Behind (own ++ edits) (a :: actions) where
  texts := by
    have silent : own.filterMap Edit.text? = [] :=
      List.filterMap_eq_nil_iff.2 fun e mem => (owned e mem).text?
    rw [List.filterMap_append, silent, List.nil_append, h.texts,
      List.filterMap_cons_none (Action.text?_eq_none other)]
  results result mem := by
    rcases List.mem_append.1 mem with now | later
    · exact .inr (owned _ now)
    · exact (h.results result later).imp_left (List.mem_cons_of_mem _)

/-- A list of moves makes the edits of its moves, one after another. -/
theorem edited_by_moves (setup : Setup) (m : Machine) {moves : List Action}
    (single : ∀ a ∈ moves, a.isMove = true) :
    ∃ edits, (m.runFrom setup moves).state = m.state.edited edits ∧ Behind edits moves := by
  induction moves generalizing m with
  | nil => exact ⟨[], rfl, rfl, by simp⟩
  | cons a rest ih =>
    obtain ⟨edits, state, behind⟩ :=
      ih (m.perform setup a) fun b mem => single b (List.mem_cons_of_mem a mem)
    rw [runFrom_cons, state]
    rcases edited_by_perform setup m (single a List.mem_cons_self) with
      ⟨e, rfl, now⟩ | ⟨other, own, now, owned⟩
    · exact ⟨e :: edits, by rw [now]; rfl, behind.edit e⟩
    · exact ⟨own ++ edits, by rw [← now, Query.State.edited_append], behind.own other owned⟩

/-- The texts that the moves of a run set are those that the run sets. -/
theorem texts_moves (m : Machine) (actions : List Action) :
    (m.moves setup actions).filterMap Action.text? = actions.filterMap Action.text? := by
  have texts_movesOf (m : Machine) (a : Action) :
      (m.movesOf setup a).filterMap Action.text? = [a].filterMap Action.text? := by
    by_cases direct : ∃ e, a = .edit e
    · obtain ⟨e, rfl⟩ := direct
      rfl
    · -- an action that is no edit is made of none
      have other : ∀ e, a ≠ .edit e := fun e same => direct ⟨e, same⟩
      rw [List.filterMap_cons_none (Action.text?_eq_none other), List.filterMap_nil,
        List.filterMap_eq_nil_iff]
      rintro b mem
      refine Action.text?_eq_none ?_
      rintro e rfl
      exact other e (edit_of_mem_movesOf mem)
  induction actions generalizing m with
  | nil => rfl
  | cons a rest ih =>
    rw [moves, List.filterMap_append, texts_movesOf, ih, ← List.filterMap_append]
    rfl

/-- **A run makes edits**: the direct ones that are part of it, and those of
the submissions. -/
theorem edited_by_run (setup : Setup) (m : Machine) (actions : List Action) :
    ∃ edits, (m.runFrom setup actions).state = m.state.edited edits ∧ Behind edits actions := by
  have single : ∀ a ∈ m.moves setup actions, a.isMove = true := fun _ => isMove_of_mem_moves
  obtain ⟨edits, state, behind⟩ := edited_by_moves setup m single
  rw [runFrom_moves] at state
  refine ⟨edits, state, behind.texts.trans (texts_moves m actions), fun result mem => ?_⟩
  exact (behind.results result mem).imp_left edit_of_mem_moves

/-- A result that a run leaves can be written if those that are given to it
can. -/
theorem isWritable_of_run (setup : Setup) (queryText : Text) (actions : List Action)
    (given : ∀ result, .edit (.succeed result) ∈ actions → result.isWritable = true)
    {result : Json} (left : ((new (.new queryText)).runFrom setup actions).state.outcome.result? =
      some result) : result.isWritable = true := by
  obtain ⟨edits, state, behind⟩ := edited_by_run setup (new (.new queryText)) actions
  rw [state] at left
  rcases behind.results result (mem_of_result_edited rfl left) with direct | decoded
  · exact given result direct
  · exact Json.isWritable_of_showable decoded.showable

/-- **The fields agree in every state, and what is shown follows from them.**
After any run, with direct changes of the state anywhere in it: the fields
are what the edits behind the run make of a new flat record, and they agree;
and the text of the query is the one that was set last. If the results that
were given directly can be written, as all can that are decoded, a view is
made of the fields and copies them, and what is shown of it in English is
what stands for them. -/
theorem shown_of_run (setup : Setup) (queryText : Text) (actions : List Action) (m : Machine)
    (run : (new (.new queryText)).runFrom setup actions = m) :
    (∃ edits, Behind edits actions ∧
      m.state.fields = (Query.Fields.new queryText).edited edits) ∧
    m.state.fields.Consistent ∧
    m.state.fields.queryText = ((actions.filterMap Action.text?).getLast?).getD queryText ∧
    ((∀ result, .edit (.succeed result) ∈ actions → result.isWritable = true) →
      ∃ parts view shown, m.state.fields.parts = .ok parts ∧
        Query.View.ofParts parts = .ok view ∧ view.Copies m.state.fields ∧
        view.shown .bundled = .ok (.string shown) ∧ m.state.fields.ShownAs shown) := by
  obtain ⟨edits, state, behind⟩ := edited_by_run setup (new (.new queryText)) actions
  have writable := isWritable_of_run setup queryText actions
  rw [run] at state writable
  have fields : m.state.fields = (Query.Fields.new queryText).edited edits := by
    rw [state, Query.State.fields_edited]
    rfl
  refine ⟨⟨edits, behind, fields⟩, ?_, ?_, fun given => ?_⟩
  · rw [fields]
    exact (Query.Fields.consistent_new queryText).edited edits
  · rw [← behind.texts, state]
    exact queryText_edited _ edits
  · -- the result of the state, if there is one, was given or decoded
    have left : ∀ result, m.state.outcome.result? = some result → result.isWritable = true :=
      fun _ => writable given
    obtain ⟨parts, made, view⟩ := Query.ofParts_parts left
    exact ⟨parts, m.state.view, m.state.outcome.caption, made, view, Query.view_copies _,
      Query.shown_view_english rfl (by decide) _, Query.shownAs_caption left⟩

/-- A submission between direct changes, the last of which gives a null. -/
def interleaved : List Action :=
  [.edit (.fail .parse "x"), .submit none (some (.response 200 [0x31])), .turn,
    .edit (.setText "b"), .edit (.succeed .null), .drain]

theorem shown_of_run_interleaved :
    ∃ view : Query.View, view.queryText = "b" ∧ view.resultText.isSome = true ∧
      view.shown .bundled = .ok (.string "null") := by
  obtain ⟨-, -, text, shows⟩ := shown_of_run ⟨⟨[], .zero⟩, .bundled, none⟩ "a" interleaved _ rfl
  obtain ⟨parts, view, shown, -, -, copies, printed, stands⟩ :=
    shows (by simp [interleaved, Json.isWritable])
  refine ⟨view, copies.queryText.trans text, copies.resultText.2 rfl, ?_⟩
  rw [printed, ← Except.ok.inj (stands.success rfl)]
  rfl

end Machine

end QueryConsole.Submission
