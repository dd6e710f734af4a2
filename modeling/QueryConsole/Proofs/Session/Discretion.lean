import QueryConsole.Proofs.Session.Transcript
import QueryConsole.Proofs.Submission.Lockstep
/-!
# What is told of a query and of a refused reply

Of the text of a query nothing is told but its length: two runs, or two
sessions, with texts of one length differ in the bodies of their requests
alone. And nothing is told of the body of a reply whose status is no
success. Both are read off a mask: a session behind a mask is the same
session with its requests behind the mask (`runQuery_masked`), as a run is
(`masked_runFrom_of_alike`).
-/

namespace QueryConsole.Session

open Submission

/-- A transcript with the bodies of the requests left out. -/
def Transcript.withoutBodies (t : Transcript) : Transcript :=
  { t with requests := t.requests.map Request.withoutBody }

/-- The requests of a transcript behind a mask. -/
def Transcript.masked (k : Mask) (t : Transcript) : Transcript :=
  { t with requests := t.requests.map k.request }

variable {settings : Settings} (k : Mask)

/-! ## A session behind a mask -/

theorem submitted_masked (query : Text) (reply : Reply) :
    submitted (k.text query) (k.reply reply) = k.machine (submitted query reply) := by
  rw [submitted, submitted, Machine.masked_submit]
  rfl

theorem finished_masked (settings : Settings) (query : Text) (reply : Reply) :
    finished settings (k.text query) (k.reply reply) =
      k.machine (finished settings query reply) := by
  rw [finished, finished, submitted_masked, ← Machine.masked_await, ← Machine.masked_close]

/-- What is shown of a view is not its query. -/
theorem viewLines_masked (m : Machine) : viewLines settings (k.machine m) = viewLines settings m :=
  rfl

theorem conclusion_masked (m : Machine) :
    conclusion settings (k.machine m) = conclusion settings m := by
  have ending : ((k.machine m).task? 1).bind Task.ending? = (m.task? 1).bind Task.ending? := by
    rw [Machine.task?_masked, Option.bind_map]
    rfl
  rw [conclusion, conclusion, ending, viewLines_masked]
  rfl

/-- **A session tells of its query and its reply what the mask leaves.** -/
theorem runQuery_masked (prompts : List Text) (query : Text) (reply : Reply) :
    runQuery settings prompts (k.text query) (k.reply reply) =
      (runQuery settings prompts query reply).masked k := by
  have log (m : Machine) : (k.machine m).log = m.log := rfl
  simp only [runQuery, submitted_masked, finished_masked, conclusion_masked, viewLines_masked, log]
  cases (messages settings).get "ui.title" none [] with
  | error fault => rfl
  | ok title =>
    cases viewLines settings (submitted query reply) with
    | error fault => rfl
    | ok loading =>
      simp only [Transcript.masked, Mask.machine, List.map_map]
      rfl

/-- Sessions that look the same differ in the bodies of their requests. -/
theorem withoutBodies_of_masked {t t' : Transcript} (same : t.masked k = t'.masked k) :
    t.withoutBodies = t'.withoutBodies := by
  have hidden (t : Transcript) : (t.masked k).withoutBodies = t.withoutBodies := by
    simp only [Transcript.masked, Transcript.withoutBodies, List.map_map]
    rfl
  rw [← hidden t, same, hidden t']

/-! ## The query -/

/-- Arguments are the query, and nothing is asked for. -/
theorem transcript_of_arguments (settings : Settings) {input : Input} (reply : Reply)
    (some : input.arguments ≠ []) :
    transcript settings input reply =
      runQuery settings [] (Text.intercalate " " input.arguments) reply := by
  have given : input.arguments.isEmpty = false := by simpa using some
  simp only [transcript, query, given]
  rfl

/-- Sessions with queries of one length differ in the bodies of their
requests. -/
theorem withoutBodies_transcript (settings : Settings) {input input' : Input} (reply : Reply)
    (entered : input.entered = input'.entered)
    (both : input.arguments = [] ↔ input'.arguments = [])
    (joined : (Text.intercalate " " input.arguments).SameLength
      (Text.intercalate " " input'.arguments)) :
    (transcript settings input reply).withoutBodies =
      (transcript settings input' reply).withoutBodies := by
  by_cases none : input.arguments = []
  · -- without arguments the two sessions ask for the same
    obtain ⟨arguments, line⟩ := input
    obtain ⟨arguments', line'⟩ := input'
    obtain rfl : arguments = [] := none
    obtain rfl : arguments' = [] := both.1 rfl
    obtain rfl : line = line' := entered
    rfl
  · rw [transcript_of_arguments settings reply none,
      transcript_of_arguments settings reply (mt both.2 none)]
    apply withoutBodies_of_masked Mask.queries
    rw [← runQuery_masked, ← runQuery_masked, queries_eq joined]

/-- **Of a query its length is told, and nothing else.** Two runs with the
same steps, in which every text of the one has in the other a text of the
same length, both without surrogates, agree after every step in what is
logged, in what was issued and how far it has come, and in the outcome; the
requests differ in their bodies alone. And so do two sessions whose
arguments make queries of one length, if both have arguments or neither has:
they end alike and print and ask the same. -/
theorem length_alone_of_query :
    (∀ (setup : Setup) (queryText queryText' : Text) (actions actions' : List Action),
      queryText.SameLength queryText' →
      List.Forall₂ (Action.Alike Text.SameLength Eq) actions actions' →
      ∀ n,
        let m := (Machine.new (.new queryText)).runFrom setup (actions.take n)
        let m' := (Machine.new (.new queryText')).runFrom setup (actions'.take n)
        m.Agrees m' ∧ m.wire.map Sent.withoutBody = m'.wire.map Sent.withoutBody) ∧
    ∀ (sources : Settings.Sources) (input input' : Input) (reply : Reply),
      input.entered = input'.entered → (input.arguments = [] ↔ input'.arguments = []) →
      (Text.intercalate " " input.arguments).SameLength
        (Text.intercalate " " input'.arguments) →
      (ofSources sources input reply).map Transcript.withoutBodies =
        (ofSources sources input' reply).map Transcript.withoutBodies := by
  refine ⟨fun setup queryText queryText' actions actions' first alike n => ?_,
    fun sources input input' reply entered both joined => ?_⟩
  · have same := Machine.masked_runFrom_of_alike setup Mask.queries (fun _ _ => queries_eq)
      (fun _ _ => congrArg _) (queries_eq first) (List.forall₂_take n alike)
    exact ⟨Machine.agrees_of_masked same, Machine.withoutBody_of_masked same⟩
  · rw [ofSources, ofSources]
    cases sources.settings with
    | error violations => rfl
    | ok settings => exact congrArg Except.ok (withoutBodies_transcript settings reply entered both joined)

/-- Two submissions of which the later one is answered first. -/
def answeredBackwards (first second : Text) : List Submission.Action :=
  [.submit (some first) none, .submit (some second) none, .drain,
    .release 2 (.response 200 [0x32]), .drain, .release 1 (.response 200 [0x31]), .drain]

theorem length_alone_of_query_reworded :
    let setup : Setup := ⟨⟨[], .zero⟩, ⟨.empty, "en"⟩, none⟩
    ((Machine.new (.new "a")).runFrom setup (answeredBackwards "a" "b")).log =
        ((Machine.new (.new "x")).runFrom setup (answeredBackwards "y" "z")).log ∧
      (ofSources .none ⟨["a", "b"], none⟩ (.response 200 [0x31])).map Transcript.withoutBodies =
        (ofSources .none ⟨["xyz"], none⟩ (.response 200 [0x31])).map Transcript.withoutBodies := by
  intro setup
  obtain ⟨runs, sessions⟩ := length_alone_of_query
  have alike : List.Forall₂ (Action.Alike Text.SameLength Eq) (answeredBackwards "a" "b")
      (answeredBackwards "y" "z") :=
    .cons (.submit (.some ⟨rfl, rfl, rfl⟩) .none) <|
      .cons (.submit (.some ⟨rfl, rfl, rfl⟩) .none) <| .cons (.same _) <| .cons (.same _) <|
        .cons (.same _) <| .cons (.same _) <| .cons (.same _) .nil
  exact ⟨(runs setup "a" "x" _ _ ⟨rfl, rfl, rfl⟩ alike 7).1.log,
    sessions .none ⟨["a", "b"], none⟩ ⟨["xyz"], none⟩ (.response 200 [0x31]) rfl (by simp)
      ⟨rfl, rfl, rfl⟩⟩

/-- With settings that are right there is a session. -/
theorem map_ofSources {sources : Settings.Sources} (made : sources.settings = .ok settings)
    (input : Input) (reply : Reply) {α : Type} (seen : Transcript → α) :
    (ofSources sources input reply).map seen = .ok (seen (transcript settings input reply)) := by
  rw [ofSources, made]
  rfl

/-- A query that is known ends no session for want of input. -/
theorem ending_runQuery_ne (english : IsEnglish settings) (prompts : List Text) (query : Text)
    (reply : Reply) : (runQuery settings prompts query reply).ending ≠ .endOfInput := by
  obtain ⟨-, ending, -⟩ := runQuery_eq english prompts query reply
  refine ne_of_eq_of_ne ending ?_
  rw [conclusion, viewLines_eq english]
  split <;> simp

/-- **A session ends for want of input** exactly if it has no argument and
no line. -/
theorem ending_eq_endOfInput_iff (english : IsEnglish settings) (input : Input) (reply : Reply) :
    (transcript settings input reply).ending = .endOfInput ↔
      input.arguments = [] ∧ input.entered = none := by
  have unasked : asked? settings input = none ↔ input.arguments = [] ∧ input.entered = none := by
    by_cases empty : input.arguments = [] <;> simp [asked?, empty]
  obtain ⟨prompts, found⟩ := query_of_asked english input
  rw [transcript, found, ← unasked]
  cases asked? settings input with
  | some query => exact iff_of_false (ending_runQuery_ne english prompts query reply) (by simp)
  | none => exact iff_of_true rfl rfl

/-- **One argument of no length is not no argument**: both make a query of
length zero, but where there is no argument the query is asked for, and a
session ends where its input does. -/
theorem ending_of_no_argument :
    ¬ ∀ (sources : Settings.Sources) (input input' : Input) (reply : Reply),
      input.entered = input'.entered →
      (Text.intercalate " " input.arguments).SameLength
        (Text.intercalate " " input'.arguments) →
      (ofSources sources input reply).map Transcript.ending =
        (ofSources sources input' reply).map Transcript.ending := by
  intro claimed
  have made : Settings.Sources.none.settings = .ok .default := by
    have raw (f : Settings.Field) : Settings.Sources.none.raw f = none := by cases f <;> rfl
    have extra : Settings.Sources.none.extra = [] := rfl
    simp only [Settings.Sources.settings, Settings.ofRaw, raw, extra, Settings.setting,
      List.isEmpty_nil, if_true]
  have english : IsEnglish .default := by
    show Catalog.language "en" = "en"
    decide
  have same := claimed .none ⟨[], none⟩ ⟨[[]], none⟩ (.response 200 [0x31]) rfl ⟨rfl, rfl, rfl⟩
  rw [map_ofSources made, map_ofSources made] at same
  have ended := (ending_eq_endOfInput_iff english ⟨[], none⟩ (.response 200 [0x31])).2 ⟨rfl, rfl⟩
  have given := (ending_eq_endOfInput_iff english ⟨[[]], none⟩ (.response 200 [0x31])).1
    ((Except.ok.inj same).symm.trans ended)
  simp at given

/-! ## Refused replies -/

/-- Sessions with replies that differ in what nobody reads are the same. -/
theorem transcript_of_refused (settings : Settings) (input : Input) {reply reply' : Reply}
    (unread : reply.SameButUnread reply') :
    transcript settings input reply = transcript settings input reply' := by
  have seen (t : Transcript) : t.masked Mask.refused = t := by
    have requests : t.requests.map Mask.refused.request = t.requests := List.map_id _
    rw [Transcript.masked, requests]
  rw [transcript, transcript]
  cases query settings input with
  | mk prompts asked =>
    cases asked with
    | error ending => rfl
    | ok query =>
      simp only
      rw [← seen (runQuery settings prompts query reply), ← runQuery_masked, refused_eq unread,
        runQuery_masked, seen]

/-- **Of a refused reply its status is told, and nothing else.** Two runs
with the same steps, in which replies differ only in the bodies of those
whose status is no success, have after every step the same state and the same
view, log and send the same, and their tasks have come equally far and ended
in the same way. And two sessions with such replies are the same. -/
theorem status_alone_of_refused :
    (∀ (setup : Setup) (queryText : Text) (actions actions' : List Action),
      List.Forall₂ (Action.Alike Eq Reply.SameButUnread) actions actions' →
      ∀ n,
        let m := (Machine.new (.new queryText)).runFrom setup (actions.take n)
        let m' := (Machine.new (.new queryText)).runFrom setup (actions'.take n)
        m.Agrees m' ∧ m.state = m'.state ∧ m.state.view = m'.state.view ∧ m.wire = m'.wire) ∧
    ∀ (sources : Settings.Sources) (input : Input) (reply reply' : Reply),
      reply.SameButUnread reply' → ofSources sources input reply = ofSources sources input reply' := by
  refine ⟨fun setup queryText actions actions' alike n => ?_,
    fun sources input reply reply' unread => ?_⟩
  · have first : Mask.refused.text queryText = Mask.refused.text queryText := rfl
    have same := Machine.masked_runFrom_of_alike setup Mask.refused (fun _ _ => congrArg _)
      (fun _ _ => refused_eq) first (List.forall₂_take n alike)
    have state := Machine.state_of_refused same
    exact ⟨Machine.agrees_of_masked same, state, congrArg _ state, Machine.wire_of_refused same⟩
  · have same : (fun settings => transcript settings input reply) =
        fun settings => transcript settings input reply' :=
      funext fun settings => transcript_of_refused settings input unread
    rw [ofSources, ofSources, same]

/-- Two submissions of which the first is refused, with some body. -/
def refusedWith (body : Bytes) : List Submission.Action :=
  [.submit (some "a") (some (.response 500 body)), .submit (some "b") none, .drain]

theorem status_alone_of_refused_nested :
    let setup : Setup := ⟨⟨[], .zero⟩, ⟨.empty, "en"⟩, none⟩
    ((Machine.new (.new [])).runFrom setup (refusedWith [0x31])).log =
        ((Machine.new (.new [])).runFrom setup (refusedWith (List.replicate 1000 0x5B))).log ∧
      ofSources .none ⟨["a"], none⟩ (.response 404 [0xFF]) =
        ofSources .none ⟨["a"], none⟩ (.response 404 []) := by
  intro setup
  obtain ⟨runs, sessions⟩ := status_alone_of_refused
  have alike (body body' : Bytes) : List.Forall₂ (Action.Alike Eq Reply.SameButUnread)
      (refusedWith body) (refusedWith body') :=
    .cons (.submit (.some rfl) (.some (.refused (by decide)))) <|
      .cons (.same _) <| .cons (.same _) .nil
  exact ⟨(runs setup [] _ _ (alike _ _) 3).1.log,
    sessions .none ⟨["a"], none⟩ _ _ (.refused (by decide))⟩

end QueryConsole.Session
