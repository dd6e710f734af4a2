import QueryConsole.Proofs.Endpoint.Rendering
import QueryConsole.Proofs.Query.Fields
import QueryConsole.Proofs.Submission.Alone
import QueryConsole.Proofs.Submission.Described
import QueryConsole.Session
/-!
# A session is one exchange

A session finds its query (`asked?`), executes it once, and prints what came
of it between a title and the end: `transcript_of_exchange`. Its one
submission is alone on its machine, so everything it does is known from
`Alone`; what is printed is the caption of the state before and after.
-/

namespace QueryConsole

/-- A text is stripped to nothing exactly if all of it is blank. -/
theorem Text.isEmpty_strip (t : Text) : t.strip.isEmpty = t.all CodePoint.isBlank := by
  rw [Bool.eq_iff_iff, List.isEmpty_iff, List.all_eq_true, strip, trim, trimEnd,
    List.reverse_eq_nil_iff, List.dropWhile_eq_nil_iff]
  refine ⟨fun blank => ?_, fun blank p mem => ?_⟩
  · -- what is left of the beginning starts with no blank, so nothing is left
    refine List.dropWhile_eq_nil_iff.1 (by_contra fun some => ?_)
    have first := List.head_dropWhile_not CodePoint.isBlank some
    simp [blank _ (List.mem_reverse.2 (List.head_mem some))] at first
  · exact blank p ((List.dropWhile_sublist _).subset (List.mem_reverse.1 mem))

namespace Session

open Submission

/-- **The query that a session is about**: the arguments, put together with
blanks; without any the line that is typed, as it stands, if it is not
blank, and else the initial query. If input ends there is none. -/
def asked? (settings : Settings) (input : Input) : Option Text :=
  if input.arguments ≠ [] then some (Text.intercalate " " input.arguments)
  else input.entered.map fun line =>
    if line.all CodePoint.isBlank then settings.initialQuery else line

/-- The text of a line that is no record of the log. -/
def Line.text? : Line → Option Text
  | .text t => some t
  | .log _ => none

/-- What a session prints, aside from the log. -/
def Transcript.texts (t : Transcript) : List Text :=
  t.lines.filterMap Line.text?

/-- A text line by line. -/
def linesOf (t : Text) : List Text := t.splitOn (.scalar '\n')

variable {settings : Settings}

theorem texts_textLines (t : Text) : (textLines t).filterMap Line.text? = linesOf t := by
  rw [textLines, List.filterMap_map]
  exact List.filterMap_some

theorem texts_logLines (events : List Event) :
    (logLines settings events).filterMap Line.text? = [] := by
  rw [logLines, List.filterMap_map]
  exact List.filterMap_eq_nil_iff.2 fun _ _ => rfl

/-! ## In English -/

/-- Settings whose language is English. -/
def IsEnglish (settings : Settings) : Prop :=
  Catalog.language settings.defaultLanguage = "en"

theorem messages_eq (english : IsEnglish settings) : messages settings = .bundled := by
  have same : Catalog.language (Text.ofString "en") = "en" := by decide
  rw [messages, Catalog.Messages.new, english, Catalog.Messages.bundled, Catalog.Messages.new, same]

/-- A message of the console is the English one. -/
theorem get_english {e : String × String} (known : e ∈ Catalog.english) :
    Catalog.Messages.bundled.get (Text.ofString e.1) none [] =
      .ok (.string (Text.ofString e.2)) :=
  Catalog.get_english rfl known (by decide)

theorem viewLines_eq (english : IsEnglish settings) (m : Machine) :
    viewLines settings m = .ok (textLines m.state.outcome.caption) := by
  rw [viewLines, messages_eq english, Query.shown_view_english rfl (by decide)]
  rfl

/-- The query of a session is the one that it is about. -/
theorem query_of_asked (english : IsEnglish settings) (input : Input) :
    ∃ prompts, query settings input = (prompts,
      match asked? settings input with
      | some q => .ok q
      | none => .error .endOfInput) := by
  obtain ⟨arguments, entered⟩ := input
  cases arguments with
  | cons first rest => exact ⟨[], rfl⟩
  | nil =>
    have prompt : ∃ prompt, promptText settings = .ok prompt := by
      rw [promptText, messages_eq english,
        get_english (e := ("ui.prompt", "Enter your SQL query here")) (by decide)]
      exact ⟨_, rfl⟩
    obtain ⟨prompt, asked⟩ := prompt
    refine ⟨[prompt], ?_⟩
    cases entered with
    | none => simp [query, asked, asked?]
    | some line => simp [query, asked, asked?, queryOfLine, Text.isEmpty_strip]

/-! ## The session -/

variable {exchange : Exchange.Execution}

/-- The machine of a session has one submission, and it is over. -/
theorem alone_finished (settings : Settings) (query : Text) (reply : Reply) :
    Machine.Alone (setup settings) (Exchange.execute (endpoint settings) query reply)
      (finished settings query reply) := by
  have alone := Machine.alone_run (setup settings) query none reply
  have run : (Machine.new (.new query)).run (setup settings) none reply =
      (submitted query reply).await (setup settings) 1 := rfl
  rw [finished, ← run, alone.close]
  exact alone

/-- **What a session does**: it prints the title and that it waits, and then
what is concluded from its exchange. -/
theorem runQuery_eq (english : IsEnglish settings) (prompts : List Text) (query : Text)
    (reply : Reply) :
    let t := runQuery settings prompts query reply
    let concluded := conclusion settings (finished settings query reply)
    t.texts = Text.ofString "Data from Server" :: Text.ofString "Loading..." ::
        concluded.1.filterMap Line.text? ∧
      t.ending = concluded.2 ∧
      t.requests = (Exchange.execute (endpoint settings) query reply).requests := by
  intro t concluded
  have title : (messages settings).get "ui.title" none [] =
      .ok (.string (Text.ofString "Data from Server")) := by
    rw [messages_eq english]
    exact get_english (e := ("ui.title", "Data from Server")) (by decide)
  have loading : viewLines settings (submitted query reply) =
      .ok (textLines (Text.ofString "Loading...")) := viewLines_eq english _
  have requests : (finished settings query reply).wire.map Sent.request =
      (Exchange.execute (endpoint settings) query reply).requests := by
    rw [(alone_finished settings query reply).wire, List.map_map]
    exact List.map_id _
  refine ⟨?_, ?_, ?_⟩
  · have titleLine : linesOf "Data from Server" = [Text.ofString "Data from Server"] := by decide
    have loadingLine : linesOf "Loading..." = [Text.ofString "Loading..."] := by decide
    simp only [t, runQuery, title, loading, printed, Transcript.texts, List.filterMap_append,
      texts_textLines, texts_logLines, titleLine, loadingLine]
    rfl
  · simp only [t, runQuery, title, loading]
    rfl
  · simp only [t, runQuery, title, loading]
    exact requests

/-- What is concluded from an exchange that ended its task normally. -/
theorem conclusion_of_completed (english : IsEnglish settings) {m : Machine}
    (alone : Machine.Alone (setup settings) exchange m)
    (completed : endingOf (setup settings) exchange.outcome = .completed) :
    conclusion settings m = (textLines (leftBy (setup settings) exchange.outcome).caption,
      .exit (if (leftBy (setup settings) exchange.outcome).status = .success then 0 else 1)) := by
  obtain ⟨t, ht, settled⟩ := alone.task
  have ended : (m.task? 1).bind Task.ending? = some .completed := by
    rw [ht, Option.bind_some, Task.ending?, settled, completed]
  simp only [conclusion, ended, viewLines_eq english, exitCode, Query.State.status, alone.outcome]

/-- And from one that was cancelled. -/
theorem conclusion_of_cancelled {m : Machine} (alone : Machine.Alone (setup settings) exchange m)
    {message : Option Text} (cancelled : exchange.outcome = .error (.cancelled message)) :
    conclusion settings m = ([], .cancelled message) := by
  obtain ⟨t, ht, settled⟩ := alone.task
  have ended : (m.task? 1).bind Task.ending? = some (.cancelled message) := by
    rw [ht, Option.bind_some, Task.ending?, settled, cancelled]
    rfl
  simp only [conclusion, ended]

/-- **A session is one exchange.** In English and for every input and reply:
a session that finds no query ends with the input, and prints and sends
nothing. Any other sends what the exchange of its query sends. If the
exchange comes to a value, the session prints the title, that it waits, and
the rendered value, and exits with zero. If it fails, the last text is the
description of the failure that a controller stores for the same reply, and
the exit code is one; a status that is too long to be written, which no
reply has, is left aside. And if the reply is a cancellation, to a query that
has no surrogate and so is sent, the session ends cancelled, with the first
two texts printed. -/
theorem transcript_of_exchange (settings : Settings)
    (english : Catalog.language settings.defaultLanguage = "en") (input : Input) (reply : Reply) :
    let t := transcript settings input reply
    (asked? settings input = none → t.ending = .endOfInput ∧ t.lines = [] ∧ t.requests = []) ∧
    ∀ query, asked? settings input = some query →
      let exchange := Exchange.execute (endpoint settings) query reply
      t.requests = exchange.requests ∧
      (∀ v, exchange.outcome = .ok v → ∃ text, v.render = .ok text ∧ t.ending = .exit 0 ∧
        t.texts = Text.ofString "Data from Server" :: Text.ofString "Loading..." ::
          linesOf text) ∧
      (∀ failure, exchange.outcome = .error failure →
        (∀ message, failure ≠ .cancelled message) → isWritable failure = true →
        ∃ message, (∀ queryText, ((Machine.new (.new queryText)).run
            ⟨endpoint settings, .bundled, none⟩ (some query) reply).state.outcome.errorMessage? =
              some message) ∧
          t.ending = .exit 1 ∧
          t.texts = Text.ofString "Data from Server" :: Text.ofString "Loading..." ::
            linesOf (Text.ofString "Error: " ++ message)) ∧
      (∀ message, reply = .raised (.cancelled message) → query.isScalar = true →
        t.ending = .cancelled message ∧
        t.texts = [Text.ofString "Data from Server", Text.ofString "Loading..."]) := by
  intro t
  obtain ⟨prompts, found⟩ := query_of_asked english input
  refine ⟨fun none => ?_, fun query asked => ?_⟩
  · have ended : t = ⟨.endOfInput, [], prompts, []⟩ := by simp only [t, transcript, found, none]
    rw [ended]
    exact ⟨rfl, rfl, rfl⟩
  · intro exchange
    have run : t = runQuery settings prompts query reply := by
      simp only [t, transcript, found, asked]
    have alone := alone_finished settings query reply
    obtain ⟨texts, ending, requests⟩ := runQuery_eq english prompts query reply
    rw [run, texts, ending]
    refine ⟨requests, fun v ok => ?_, fun failure failed own writable => ?_,
      fun message replied scalar => ?_⟩
    · -- a value is rendered, for it was decoded
      have rendered : v.render = .ok v.pretty :=
        Json.render_eq (Exchange.decoded_of_receive (Exchange.receive_of_execute ok)).showable
      have concluded := conclusion_of_completed english alone (by rw [ok]; rfl)
      rw [ok] at concluded
      refine ⟨v.pretty, rendered, congrArg Prod.snd concluded, ?_⟩
      rw [concluded, texts_textLines]
      rfl
    · -- a failure is described, and by any controller in the same words
      have bundled : (setup settings).messages.directory = Catalog.bundled := rfl
      obtain ⟨message, described⟩ := describe?_bundled bundled own writable
      have left := leftBy_of_described described
      have concluded := conclusion_of_completed english alone
        (endingOf_eq_completed.2 (.inr ⟨failure, message, failed, described⟩))
      rw [failed, left] at concluded
      refine ⟨message, fun queryText => ?_, congrArg Prod.snd concluded, ?_⟩
      · have same : setup settings = ⟨endpoint settings, .bundled, none⟩ := by
          rw [setup, messages_eq english]
        rw [← same, (Machine.alone_run (setup settings) queryText (some query) reply).outcome]
        exact (congrArg Query.Outcome.errorMessage? ((congrArg _ failed).trans left))
      · rw [concluded, texts_textLines]
        rfl
    · have cancelled : exchange.outcome = .error (.cancelled message) := by
        simp only [exchange, replied]
        exact Exchange.outcome_execute _ _ scalar
      have concluded := conclusion_of_cancelled alone cancelled
      rw [concluded]
      exact ⟨rfl, rfl⟩

/-- Settings with no more in them than a session needs. -/
def bare : Settings :=
  ⟨.dev, [], .zero, [], "EN_us", .info⟩

theorem transcript_of_exchange_of_arguments :
    (transcript bare ⟨["a", "b"], none⟩ (.response 200 (Utf8.encode "[]"))).ending = .exit 0 ∧
      (transcript bare ⟨["a", "b"], none⟩ (.response 200 (Utf8.encode "[]"))).requests.map
        Request.body = [Utf8.encode "a b"] := by
  have english : Catalog.language "EN_us" = "en" := by decide
  obtain ⟨-, queried⟩ := transcript_of_exchange bare english ⟨["a", "b"], none⟩
    (.response 200 (Utf8.encode "[]"))
  obtain ⟨requests, succeeded, -, -⟩ := queried "a b" rfl
  obtain ⟨text, -, exit, -⟩ := succeeded (.array []) (by cbv)
  refine ⟨exit, ?_⟩
  rw [requests]
  cbv

end Session

end QueryConsole
