import QueryConsole.Proofs.Query.Fields
import QueryConsole.Proofs.Submission.Described
import QueryConsole.Proofs.Submission.LatestWins
import QueryConsole.Proofs.Submission.Ready
import QueryConsole.Proofs.Submission.Wire
/-!
# What is told of a failure

A text that the endpoint chose goes through two templates before it is
shown: it is put into the message for its kind of failure, and that message
into the one for errors. With the messages in English both leave it as it is,
whatever stands in it (`describe?_english`). So if the latest submission
failed, the state and what is shown of it are told by the reply alone
(`told_of_run`).
-/

namespace QueryConsole.Submission

variable {setup : Setup} {failure : Failure} {kind : ErrorKind} {message : Text}

/-! ## The words -/

/-- **What a failure is told as**: its kind, and its own text after words
that are the same for all failures of its kind. -/
def told? : Failure → Option (ErrorKind × Text)
  | .refused (.general detail) | .refused (.transport detail) =>
    some (.transport, "Failed to reach the query endpoint: " ++ detail)
  | .refused (.httpStatus status) =>
    some (.httpStatus, "Network response was not ok (status " ++ Text.ofInt status ++ ")")
  | .refused (.parse detail) =>
    some (.parse, "Endpoint response is not valid JSON: " ++ detail)
  | .crashed crash =>
    some (.transport, "Query submission failed unexpectedly: " ++
      Text.orName crash.message crash.name)
  | .cancelled _ => none

/-- **Its description in English is what it is told as.** -/
theorem describe?_english (bundled : setup.messages.directory = Catalog.bundled)
    (asked : Text.ofString "en" ∈ setup.messages.languages setup.locale)
    (writable : isWritable failure = true) (told : told? failure = some (kind, message)) :
    describe? setup failure = some (.ok message) ∧ shownKind failure = kind := by
  have filled (f : Catalog.Framed) (known : f ∈ Catalog.framed) {v : Template.Value}
      {shown : Text} (text : v.toText = .ok shown) :
      setup.messages.describe (Text.ofString f.key) setup.locale [(Text.ofString f.word, v)] =
        .ok (Text.ofString f.before ++ shown ++ Text.ofString f.after) :=
    Catalog.describe_english bundled known (by simp [List.lookup]) text asked
  have ended (key before : String) (known : ⟨key, before, "detail", ""⟩ ∈ Catalog.framed)
      (detail : Text) :
      setup.messages.describe (Text.ofString key) setup.locale [("detail", .text detail)] =
        .ok (Text.ofString before ++ detail) := by
    have whole := filled ⟨key, before, "detail", ""⟩ known (v := .text detail) rfl
    rwa [show Text.ofString "" = [] from rfl, List.append_nil] at whole
  match failure with
  | .refused (.general detail) | .refused (.transport detail) =>
    obtain ⟨rfl, rfl⟩ := Prod.mk.inj (Option.some.inj told)
    exact ⟨congrArg some (ended "errors.transport" _ (by simp [Catalog.framed]) detail), rfl⟩
  | .refused (.httpStatus status) =>
    obtain ⟨rfl, rfl⟩ := Prod.mk.inj (Option.some.inj told)
    have short : (Digits.ofNat status.natAbs).length ≤ Template.Value.maxIntegerDigits := by
      simpa [isWritable] using writable
    exact ⟨congrArg some (filled ⟨"errors.http_status", "Network response was not ok (status ",
      "status_code", ")"⟩ (by simp [Catalog.framed]) (Template.Value.toText_int short)), rfl⟩
  | .refused (.parse detail) =>
    obtain ⟨rfl, rfl⟩ := Prod.mk.inj (Option.some.inj told)
    exact ⟨congrArg some (ended "errors.parse" _ (by simp [Catalog.framed]) detail), rfl⟩
  | .crashed crash =>
    obtain ⟨rfl, rfl⟩ := Prod.mk.inj (Option.some.inj told)
    exact ⟨congrArg some (ended "errors.unexpected" _ (by simp [Catalog.framed]) crash.detail), rfl⟩
  | .cancelled _ => simp [told?] at told

/-- **What a body that cannot be read is told as.** -/
theorem told_of_unread {body : Bytes} {fault : Document.Fault}
    (unread : Document.read body = .error fault) :
    ∃ failure, Exchange.readBody body = .error failure ∧ isWritable failure = true ∧
      told? failure = some (if fault.isTooDeep then
        (.transport, "Query submission failed unexpectedly: " ++ fault.message)
      else (.parse, "Endpoint response is not valid JSON: " ++ fault.message)) := by
  rw [Exchange.readBody, unread]
  cases fault with
  | undecodable _ | marked => exact ⟨_, rfl, rfl, rfl⟩
  | unreadable t fault =>
    cases fault with
    | tooDeep bracket => cases bracket <;> exact ⟨_, rfl, rfl, rfl⟩
    | malformed _ _ | integerTooLong _ => exact ⟨_, rfl, rfl, rfl⟩

/-- A failure that is no cancellation is told. -/
theorem exists_told (own : ∀ message, failure ≠ .cancelled message) :
    ∃ kind message, told? failure = some (kind, message) := by
  match failure with
  | .refused (.general _) | .refused (.transport _) | .refused (.httpStatus _)
  | .refused (.parse _) | .crashed _ => exact ⟨_, _, rfl⟩
  | .cancelled message => exact absurd rfl (own message)

/-- Over a closed client every query crashes. -/
theorem send_closed (endpoint : Endpoint) (query : Text) :
    ∃ crash, (Exchange.send endpoint false query).outcome = .error (.crashed crash) := by
  rcases Exchange.send_cases endpoint query with ⟨fault, -, kept⟩ | ⟨body, -, -, closed⟩
  · exact ⟨_, kept false⟩
  · exact ⟨_, closed⟩

namespace Machine

variable {m : Machine} {n : Nat} {a : Action} {t : Task}

/-! ## What was sent could be sent -/

/-- A query whose request left can be sent over an open client. -/
theorem sendable_of_sent (faithful : Faithful setup m) (ht : m.task? n = some t)
    (sent : m.hasSent n = true) :
    ∃ request, (Exchange.send setup.endpoint true t.query).outcome = .ok request := by
  obtain ⟨r, mem, own⟩ := List.any_eq_true.1 sent
  obtain ⟨u, hu, scalar, -⟩ := faithful r mem
  rw [beq_iff_eq.1 own] at hu
  obtain rfl : u = t := Option.some.inj (hu.symm.trans ht)
  exact ⟨_, Exchange.send_eq_ok_iff.2 ⟨rfl, scalar, rfl⟩⟩

/-- **What comes of a request that left** is what comes of its reply. -/
theorem exchange?_of_sent (faithful : Faithful setup m) (ht : m.task? n = some t)
    (sent : m.hasSent n = true) {reply : Reply} (replied : t.reply = some reply) :
    m.exchange? setup n = some (Exchange.receive setup.endpoint reply).outcome := by
  obtain ⟨request, sendable⟩ := sendable_of_sent faithful ht sent
  rw [exchange?_eq ht, Exchange.outcome?, sent, sendable, replied]
  rfl

/-- And of one that did not leave, the reason why. -/
theorem exchange?_of_unsent (ht : m.task? n = some t) (unsent : m.hasSent n = false)
    (failed : (Exchange.send setup.endpoint false t.query).outcome = .error failure) :
    m.exchange? setup n = some (.error failure) := by
  rw [exchange?_eq ht, Exchange.outcome?, unsent, failed]

/-! ## The state -/

/-- **The latest submission failed and its user is told so.** Its task ended
normally; the state has the kind and the message; a view is made of the
state, and after one more word it shows the message as it is. -/
structure Tells (m : Machine) (kind : ErrorKind) (message : Text) : Prop where
  ending : ∃ t, m.task? m.latest = some t ∧ t.ending? = some .completed
  outcome : m.state.outcome = .error kind message
  view : ∃ parts, m.state.fields.parts = .ok parts ∧
    Query.View.ofParts parts = .ok m.state.view
  shown : m.state.view.shown .bundled = .ok (.string (Text.ofString "Error: " ++ message))

/-- It is so when its exchange failed and nobody cancelled it. -/
theorem Coherent.tells (h : Coherent setup m)
    (bundled : setup.messages.directory = Catalog.bundled)
    (asked : Text.ofString "en" ∈ setup.messages.languages setup.locale)
    (ht : m.task? m.latest = some t) (done : t.isDone = true)
    (own : ∀ message, t.ending? ≠ some (.cancelled message))
    (failed : m.exchange? setup m.latest = some (.error failure))
    (writable : isWritable failure = true) (told : told? failure = some (kind, message)) :
    m.Tells kind message := by
  obtain ⟨described, rfl⟩ := describe?_english bundled asked writable told
  obtain ⟨ending, ended⟩ := Task.isDone_iff.1 done
  rw [exchange?_eq ht] at failed
  have completed : ending = .completed := by
    rcases h.ending ht ended with ⟨message, rfl⟩ | ⟨outcome, exchanged, rfl⟩
    · exact absurd ended (own message)
    · obtain rfl := Option.some.inj (exchanged.symm.trans failed)
      exact endingOf_eq_completed.2 (.inr ⟨failure, message, rfl, described⟩)
  subst completed
  have outcome : m.state.outcome = .error (shownKind failure) message := by
    rw [h.outcome t ht, calledFor_of_ending ended (by simp), if_pos rfl, failed,
      Option.bind_some, shown?, described, Option.getD_some]
  refine ⟨⟨t, ht, ended⟩, outcome, Query.ofParts_parts ?_, ?_⟩
  · simp [outcome, Query.Outcome.result?]
  · rw [Query.shown_view_english rfl (by decide), outcome]
    rfl

/-- **The reply alone tells the user of a failure**, with the English
messages that come with the console. In any run in which nobody edits the
outcome the latest submission waits for its reply or, with what is ready
done, is over. If it is over and nobody cancelled it, then:

* where its request left, a broken connection is told by its text, a status
  that is no success by its number, a body that is no JSON by the message of
  the reader, and anything else that was raised by its own text; for a text
  that is empty the name of its class stands, whatever the class;
* where its request did not leave, the reason is told like anything else
  that was raised;
* and so is every failure that its exchange comes to.

Whatever these texts hold is shown as it stands. A status that is too long
to be written, which no reply has, is left aside. -/
theorem told_of_run (endpoint : Endpoint) (queryText : Text) (actions : List Action)
    (ordinary : ∀ a ∈ actions, a.leavesOutcome = true) (m : Machine)
    (run : (new (.new queryText)).runFrom ⟨endpoint, .bundled, none⟩ actions = m) (t : Task)
    (latest : m.task? m.latest = some t) :
    let setup : Setup := ⟨endpoint, .bundled, none⟩
    (∃ t', (m.drain setup).task? m.latest = some t' ∧
      (t'.phase = .waiting ∧ t'.reply = none ∨ t'.isDone = true)) ∧
    (t.isDone = true → (∀ message, t.ending? ≠ some (.cancelled message)) →
      (m.hasSent m.latest = true →
        (∀ name text, t.reply = some (.broken name text) →
          m.Tells .transport
            ("Failed to reach the query endpoint: " ++ Text.orName text name)) ∧
        (∀ status body, t.reply = some (.response status body) →
          ¬ (200 ≤ status ∧ status ≤ 299) → isWritable (.refused (.httpStatus status)) = true →
          m.Tells .httpStatus
            ("Network response was not ok (status " ++ Text.ofInt status ++ ")")) ∧
        (∀ status body fault, t.reply = some (.response status body) →
          200 ≤ status ∧ status ≤ 299 → Document.read body = .error fault →
          (fault.isTooDeep = false →
            m.Tells .parse ("Endpoint response is not valid JSON: " ++ fault.message)) ∧
          (fault.isTooDeep = true →
            m.Tells .transport ("Query submission failed unexpectedly: " ++ fault.message))) ∧
        (∀ crash, t.reply = some (.raised (.crashed crash)) →
          m.Tells .transport ("Query submission failed unexpectedly: " ++
            Text.orName crash.message crash.name))) ∧
      (m.hasSent m.latest = false → ∃ crash,
        (Exchange.send endpoint false t.query).outcome = .error (.crashed crash) ∧
        m.Tells .transport ("Query submission failed unexpectedly: " ++
          Text.orName crash.message crash.name)) ∧
      ∀ failure, m.exchange? setup m.latest = some (.error failure) →
        isWritable failure = true →
        ∃ kind message, told? failure = some (kind, message) ∧ m.Tells kind message) := by
  intro setup
  have coherent := coherent_runFrom setup queryText ordinary
  have scheduled := scheduled_runFrom setup (scheduled_new (.new queryText)) actions
  have faithful : Faithful setup ((new (.new queryText)).runFrom setup actions) :=
    runFrom_of_kept (fun _ _ single kept => kept.perform single)
      (fun _ mem => absurd mem List.not_mem_nil) actions
  rw [run] at coherent scheduled faithful
  refine ⟨?_, fun done own => ?_⟩
  · -- with no job left a task waits for its reply, or its end has been reported
    obtain ⟨t', ht', -⟩ := task_of_runFrom setup [.drain] latest
    refine ⟨t', ht', ?_⟩
    rcases (scheduled_runFrom setup scheduled [.drain]).at_rest (queue_drain setup m) ht' with
      waiting | ⟨ending, settled⟩
    · exact .inl waiting
    · exact .inr (by rw [Task.isDone, Task.ending?, settled]; rfl)
  · have tells {failure : Failure} {kind : ErrorKind} {message : Text}
        (failed : m.exchange? setup m.latest = some (.error failure))
        (writable : isWritable failure = true) (told : told? failure = some (kind, message)) :
        m.Tells kind message :=
      coherent.tells rfl
        (show Text.ofString "en" ∈ Catalog.Messages.bundled.languages none by decide)
        latest done own failed writable told
    refine ⟨fun sent => ?_, fun unsent => ?_, fun failure failed writable => ?_⟩
    · have exchanged {reply : Reply} (replied : t.reply = some reply) :=
        exchange?_of_sent faithful latest sent replied
      refine ⟨fun name text replied => ?_, fun status body replied refused writable => ?_,
        fun status body fault replied success unread => ?_, fun crash replied => ?_⟩
      · exact tells (exchanged replied) rfl rfl
      · have failed : (Exchange.receive endpoint (.response status body)).outcome =
            .error (.refused (.httpStatus status)) :=
          if_neg (by simpa [Exchange.isSuccess] using refused)
        exact tells ((exchanged replied).trans (congrArg some failed)) writable rfl
      · have body' : (Exchange.receive endpoint (.response status body)).outcome =
            Exchange.readBody body := if_pos (by simpa [Exchange.isSuccess] using success)
        obtain ⟨failure, failed, writable, told⟩ := told_of_unread unread
        have failed' := (exchanged replied).trans (congrArg some (body'.trans failed))
        exact ⟨fun shallow => tells failed' writable (by rw [told, shallow]; rfl),
          fun deep => tells failed' writable (by rw [told, deep]; rfl)⟩
      · exact tells (exchanged replied) rfl rfl
    · obtain ⟨crash, failed⟩ := send_closed endpoint t.query
      exact ⟨crash, failed, tells (exchange?_of_unsent latest unsent failed) rfl rfl⟩
    · -- a task whose exchange was cancelled ended cancelled
      have cancelled : ∀ message, failure ≠ .cancelled message := by
        rintro message rfl
        obtain ⟨ending, ended⟩ := Task.isDone_iff.1 done
        rw [exchange?_eq latest] at failed
        rcases coherent.ending latest ended with ⟨message, rfl⟩ | ⟨outcome, exchanged, rfl⟩
        · exact own message ended
        · obtain rfl := Option.some.inj (exchanged.symm.trans failed)
          exact own message ended
      obtain ⟨kind, message, told⟩ := exists_told cancelled
      exact ⟨kind, message, told, tells failed writable told⟩

/-- Two submissions, of which the later one is told with braces in the text. -/
def bracedText : List Action :=
  [.submit (some "a") none, .submit (some "b") none, .drain,
    .release 2 (.broken "ConnectError" "\x7bdetail\x7d"), .drain]

theorem told_of_run_bracedText :
    ((new (.new [])).runFrom ⟨⟨[], .zero⟩, .bundled, none⟩ bracedText).state.view.shown .bundled =
      .ok (.string "Error: Failed to reach the query endpoint: \x7bdetail\x7d") := by
  let m := (new (.new [])).runFrom ⟨⟨[], .zero⟩, .bundled, none⟩ bracedText
  let t : Task :=
    ⟨"b", some (.broken "ConnectError" "\x7bdetail\x7d"), .settled .completed, false, false⟩
  have ran : m.task? m.latest = some t ∧ m.hasSent m.latest = true := by decide +kernel
  obtain ⟨-, ended⟩ := told_of_run ⟨[], .zero⟩ [] bracedText (by decide) m rfl t ran.1
  obtain ⟨replied, -⟩ := ended rfl (by intro message; simp [t, Task.ending?])
  obtain ⟨broken, -⟩ := replied ran.2
  exact (broken "ConnectError" "\x7bdetail\x7d" rfl).shown

end Machine

end QueryConsole.Submission
