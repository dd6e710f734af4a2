import Mathlib.Data.List.Forall2
import QueryConsole.Proofs.Submission.Masked
/-!
# Runs side by side

Two runs with the same steps keep in lockstep when only such texts and
replies differ that look the same behind a mask (`masked_runFrom_of_alike`).
Two masks matter: `Mask.queries` leaves of a query its length, and
`Mask.refused` leaves of a reply with a status that is no success the status.
What two machines agree in that look the same is `Agrees`.
-/

namespace QueryConsole

/-- Texts of one length that can both be encoded. -/
structure Text.SameLength (t t' : Text) : Prop where
  left : t.isScalar = true
  right : t'.isScalar = true
  length : t.length = t'.length

/-- **Replies that differ in a body that nobody reads**, that of a status
that is no success. -/
inductive Reply.SameButUnread : Reply → Reply → Prop
  | same (r : Reply) : SameButUnread r r
  | refused {status : Int} {body body' : Bytes} : ¬ (200 ≤ status ∧ status ≤ 299) →
      SameButUnread (.response status body) (.response status body')

/-- A request with its body left out. -/
def Request.withoutBody (r : Request) : Request :=
  { r with body := [] }

namespace Submission

/-- A request that was sent, with its body left out. -/
def Sent.withoutBody (s : Sent) : Sent :=
  { s with request := s.request.withoutBody }

/-- **Actions that are alike** but for related texts and replies. -/
inductive Action.Alike (text : Text → Text → Prop) (reply : Reply → Reply → Prop) :
    Action → Action → Prop
  | same (a : Action) : Alike text reply a a
  | setText {t t' : Text} : text t t' →
      Alike text reply (.edit (.setText t)) (.edit (.setText t'))
  | submit {t t' : Option Text} {r r' : Option Reply} : Option.Rel text t t' →
      Option.Rel reply r r' → Alike text reply (.submit t r) (.submit t' r')
  | release {n : Nat} {r r' : Reply} : reply r r' →
      Alike text reply (.release n r) (.release n r')
  | run {t t' : Option Text} {r r' : Reply} : Option.Rel text t t' → reply r r' →
      Alike text reply (.run t r) (.run t' r')

namespace Mask

variable {k : Mask} {text : Text → Text → Prop} {reply : Reply → Reply → Prop}

/-- What is related looks the same behind the mask. -/
theorem option_eq {α : Type} {mask : α → α} {related : α → α → Prop}
    (hidden : ∀ x x', related x x' → mask x = mask x') {x x' : Option α}
    (h : Option.Rel related x x') : x.map mask = x'.map mask := by
  cases h with
  | none => rfl
  | some h => exact congrArg some (hidden _ _ h)

theorem action_eq (texts : ∀ t t', text t t' → k.text t = k.text t')
    (replies : ∀ r r', reply r r' → k.reply r = k.reply r') {a a' : Action}
    (h : Action.Alike text reply a a') : k.action a = k.action a' := by
  cases h with
  | same => rfl
  | setText h => exact congrArg (fun t => Action.edit (.setText t)) (texts _ _ h)
  | submit ht hr => simp only [action, option_eq texts ht, option_eq replies hr]
  | release h => simp only [action, replies _ _ h]
  | run ht hr => simp only [action, option_eq texts ht, replies _ _ hr]

theorem actions_eq (texts : ∀ t t', text t t' → k.text t = k.text t')
    (replies : ∀ r r', reply r r' → k.reply r = k.reply r') {actions actions' : List Action}
    (h : List.Forall₂ (Action.Alike text reply) actions actions') :
    actions.map k.action = actions'.map k.action := by
  rw [← List.forall₂_eq_eq_eq, List.forall₂_map_left_iff, List.forall₂_map_right_iff]
  exact h.imp fun _ _ => action_eq texts replies

end Mask

/-! ## Two masks -/

/-- A text with blanks for all it says. Lone surrogates are not hidden: what
is told of them is more than a length. -/
def blanked (t : Text) : Text :=
  if t.isScalar then List.replicate t.length (.scalar ' ') else t

theorem blanked_of_isScalar {t : Text} (scalar : t.isScalar = true) :
    blanked t = List.replicate t.length (.scalar ' ') :=
  if_pos scalar

theorem isScalar_replicate (n : Nat) : Text.isScalar (List.replicate n (.scalar ' ')) = true := by
  rw [Text.isScalar, List.all_eq_true]
  intro p mem
  rw [List.eq_of_mem_replicate mem]
  rfl

/-- **The mask that leaves the length of a query.** -/
def Mask.queries : Mask where
  text := blanked
  body bytes :=
    match Utf8.decode false 0 bytes with
    | .ok t => Utf8.encode (blanked t)
    | .error _ => bytes
  reply r := r
  length_text t := by
    rw [blanked]
    split
    · exact List.length_replicate
    · rfl
  encodeScalars_text t := by
    cases scalar : t.isScalar with
    | true =>
      have hidden : (blanked t).isScalar = true := by
        rw [blanked_of_isScalar scalar]
        exact isScalar_replicate _
      rw [Utf8.encodeScalars_eq_ok_iff.2 ⟨scalar, rfl⟩, Utf8.encodeScalars_eq_ok_iff.2 ⟨hidden, rfl⟩,
        Except.map, Utf8.decode_encode_of_isScalar scalar]
    | false =>
      -- a text that cannot be encoded stands as it is
      rw [blanked, scalar]
      cases encoded : Utf8.encodeScalars t with
      | error fault => exact encoded
      | ok body => simp [(Utf8.encodeScalars_eq_ok_iff.1 encoded).1] at scalar
  receive_reply _ _ := rfl

/-- A reply without the body that nobody reads. -/
def unreadLeft : Reply → Reply
  | .response status body => .response status (if Exchange.isSuccess status then body else [])
  | r => r

/-- **The mask that leaves the status of a reply that is no success.** -/
def Mask.refused : Mask where
  text t := t
  body bytes := bytes
  reply := unreadLeft
  length_text _ := rfl
  encodeScalars_text t := by cases Utf8.encodeScalars t <;> rfl
  receive_reply endpoint r := by
    cases r with
    | response status body =>
      simp only [unreadLeft, Exchange.receive]
      split <;> rfl
    | broken _ _ | raised _ => rfl

theorem queries_eq {t t' : Text} (h : t.SameLength t') :
    Mask.queries.text t = Mask.queries.text t' := by
  show blanked t = blanked t'
  rw [blanked_of_isScalar h.left, blanked_of_isScalar h.right, h.length]

theorem refused_eq {r r' : Reply} (h : r.SameButUnread r') :
    Mask.refused.reply r = Mask.refused.reply r' := by
  cases h with
  | same => rfl
  | @refused status body body' refused =>
    have no : Exchange.isSuccess status = false := by simpa [Exchange.isSuccess] using refused
    simp [Mask.refused, unreadLeft, no]

namespace Machine

variable {m m' : Machine} {k : Mask}

/-! ## What is seen -/

/-- **What two machines agree in** that look the same behind a mask. -/
structure Agrees (m m' : Machine) : Prop where
  log : m.log = m'.log
  latest : m.latest = m'.latest
  inFlight : m.inFlight = m'.inFlight
  tracked : m.tracked = m'.tracked
  phase : ∀ n, (m.task? n).map Task.phase = (m'.task? n).map Task.phase
  outcome : m.state.outcome = m'.state.outcome

/-- A mask hides nothing of this. -/
theorem agrees_masked (k : Mask) (m : Machine) : m.Agrees (k.machine m) where
  log := rfl
  latest := (latest_masked k).symm
  inFlight := by
    rw [inFlight, inFlight, Mask.machine, List.countP_map]
    rfl
  tracked := by
    rw [Machine.tracked, Machine.tracked, Mask.machine, List.countP_map]
    rfl
  phase n := by
    rw [task?_masked, Option.map_map]
    rfl
  outcome := rfl

theorem Agrees.symm (h : m.Agrees m') : m'.Agrees m :=
  ⟨h.log.symm, h.latest.symm, h.inFlight.symm, h.tracked.symm, fun n => (h.phase n).symm,
    h.outcome.symm⟩

theorem Agrees.trans {m'' : Machine} (h : m.Agrees m') (h' : m'.Agrees m'') : m.Agrees m'' :=
  ⟨h.log.trans h'.log, h.latest.trans h'.latest, h.inFlight.trans h'.inFlight,
    h.tracked.trans h'.tracked, fun n => (h.phase n).trans (h'.phase n),
    h.outcome.trans h'.outcome⟩

/-- **Machines that look the same agree.** -/
theorem agrees_of_masked (same : k.machine m = k.machine m') : m.Agrees m' :=
  (agrees_masked k m).trans (same ▸ (agrees_masked k m').symm)

/-- A mask hides of a request its body alone. -/
theorem withoutBody_of_masked (same : k.machine m = k.machine m') :
    m.wire.map Sent.withoutBody = m'.wire.map Sent.withoutBody := by
  have hidden (m : Machine) :
      m.wire.map Sent.withoutBody = (k.machine m).wire.map Sent.withoutBody := by
    rw [Mask.machine, List.map_map]
    rfl
  rw [hidden m, same, ← hidden m']

/-- The mask of refused replies hides no request and no state. -/
theorem wire_of_refused (same : Mask.refused.machine m = Mask.refused.machine m') :
    m.wire = m'.wire := by
  have seen (m : Machine) : (Mask.refused.machine m).wire = m.wire := List.map_id _
  rw [← seen m, same, seen m']

theorem state_of_refused (same : Mask.refused.machine m = Mask.refused.machine m') :
    m.state = m'.state := by
  have seen (m : Machine) : (Mask.refused.machine m).state = m.state := rfl
  rw [← seen m, same, seen m']

/-! ## Lockstep -/

/-- **Runs that are alike lead to machines that look the same.** -/
theorem masked_runFrom_of_alike (setup : Setup) (k : Mask) {text : Text → Text → Prop}
    {reply : Reply → Reply → Prop} (texts : ∀ t t', text t t' → k.text t = k.text t')
    (replies : ∀ r r', reply r r' → k.reply r = k.reply r') {queryText queryText' : Text}
    (first : k.text queryText = k.text queryText') {actions actions' : List Action}
    (alike : List.Forall₂ (Action.Alike text reply) actions actions') :
    k.machine ((new (.new queryText)).runFrom setup actions) =
      k.machine ((new (.new queryText')).runFrom setup actions') := by
  have begun (queryText : Text) :
      k.machine (new (.new queryText)) = new (.new (k.text queryText)) := rfl
  rw [masked_runFrom, masked_runFrom, begun, begun, first, Mask.actions_eq texts replies alike]

end Machine

end Submission

end QueryConsole
