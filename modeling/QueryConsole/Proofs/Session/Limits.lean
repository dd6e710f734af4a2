import QueryConsole.Proofs.Settings.Fields
import QueryConsole.Proofs.Submission.Wire
import QueryConsole.Proofs.Web.Address
import QueryConsole.Session
/-!
# Settings reach the wire as they were checked

Settings that are made keep to their rules, whatever they were made of: the
timeout is a number above zero and no more than ten minutes, the log level is
one that a log can be configured with, and the endpoint is a web address with a
host. Every request carries the endpoint and the timeout (`Carries`): that of an
execution, because it is built of both, those of a run, because each move keeps
`Machine.Faithful`, and those of a session, because it is a run
(`finished_eq_runFrom`). `checked_settings_on_the_wire` puts this together.
-/

namespace QueryConsole.Session

open Submission Settings

variable {sources : Sources} {settings : Settings}

/-! ## Settings that are made -/

/-- What passes the rule of the endpoint is the normal form of an address. -/
theorem isHosted_of_checkEndpoint {v : Json} {t : Text} (passed : checkEndpoint v = .ok t) :
    Web.IsHosted t := by
  rw [checkEndpoint.eq_def] at passed
  split at passed
  · split at passed
    · split at passed
      · next read =>
        obtain rfl := Except.ok.inj passed
        exact Web.Address.isHosted_text read
      · simp at passed
      · simp at passed
    · simp at passed
  · simp at passed

/-- Every log level is that of its word. -/
theorem ofWord_word (v : Verbosity) :
    Log.Threshold.ofWord (Text.ofString v.word) = .ok v.threshold := by
  cases v <;> decide

/-! ## Requests -/

/-- A request goes to the endpoint of the settings and waits as long as they
say. -/
def Carries (settings : Settings) (r : Request) : Prop :=
  r.url = settings.endpoint ∧ r.timeout = settings.timeout

theorem carries_request (settings : Settings) (body : Bytes) :
    Carries settings (Exchange.request (endpoint settings) body) :=
  ⟨rfl, rfl⟩

theorem carries_of_execute (settings : Settings) (query : Text) (reply : Reply) :
    ∀ r ∈ (Exchange.execute (endpoint settings) query reply).requests, Carries settings r := by
  rw [Exchange.execute]
  dsimp only
  split
  · simp
  · next r built =>
    obtain ⟨-, -, -, rfl⟩ := Exchange.send_eq_ok_iff.1 built
    exact List.forall_mem_singleton.2 (carries_request settings _)

/-- **Every request of a run carries the settings**, whatever the state was at
first. -/
theorem carries_of_runFrom {setup : Setup} (own : setup.endpoint = endpoint settings)
    (state : Query.State) (actions : List Action) :
    ∀ sent ∈ ((Machine.new state).runFrom setup actions).wire, Carries settings sent.request := by
  have faithful : ((Machine.new state).runFrom setup actions).Faithful setup :=
    Machine.runFrom_of_kept (fun _ _ single kept => kept.perform single)
      (fun _ mem => absurd mem List.not_mem_nil) actions
  intro sent mem
  obtain ⟨t, -, -, request⟩ := faithful sent mem
  rw [request, own]
  exact carries_request settings _

/-- A session is a run that submits its query and is over then. -/
theorem finished_eq_runFrom (settings : Settings) (query : Text) (reply : Reply) :
    finished settings query reply =
      (Machine.new (.new query)).runFrom (setup settings) [.run none reply, .close] :=
  rfl

theorem carries_of_transcript (settings : Settings) (input : Input) (reply : Reply) :
    ∀ r ∈ (transcript settings input reply).requests, Carries settings r := by
  have own (query : Text) :
      ∀ r ∈ (finished settings query reply).wire.map Sent.request, Carries settings r := by
    rw [finished_eq_runFrom]
    intro r mem
    obtain ⟨sent, among, rfl⟩ := List.mem_map.1 mem
    exact carries_of_runFrom rfl _ _ sent among
  rw [transcript]
  split
  · simp
  · rw [runQuery]
    split
    · simp
    · dsimp only
      split
      · simp
      · exact own _

/-- **Settings reach the wire as they were checked.** -/
theorem checked_settings_on_the_wire (made : sources.settings = .ok settings) :
    (∃ quanta, settings.timeout = .finite false quanta ∧ 0 < quanta ∧
      quanta ≤ 600 * Binary64.quantaOfOne) ∧
    settings.verbosity.word ∈ ["DEBUG", "INFO", "WARNING", "ERROR"] ∧
    Log.Threshold.ofWord (Text.ofString settings.verbosity.word) =
      .ok settings.verbosity.threshold ∧
    Web.IsHosted settings.endpoint ∧
    (∀ (query : Text) (reply : Reply),
      ∀ r ∈ (Exchange.execute (endpoint settings) query reply).requests, Carries settings r) ∧
    (∀ (setup : Setup), setup.endpoint = endpoint settings →
      ∀ (state : Query.State) (actions : List Action),
        ∀ sent ∈ ((Machine.new state).runFrom setup actions).wire,
          Carries settings sent.request) ∧
    (∀ (input : Input) (reply : Reply),
      ∀ r ∈ (transcript settings input reply).requests, Carries settings r) ∧
    ((client settings).connect = settings.timeout ∧ (client settings).read = settings.timeout ∧
      (client settings).write = settings.timeout ∧ (client settings).pool = settings.timeout) := by
  obtain ⟨-, passed⟩ := ofRaw_eq_ok_iff.1 made
  have seconds : checkSeconds _ = .ok settings.timeout := passed .timeout
  have address : checkEndpoint _ = .ok settings.endpoint := passed .endpoint
  obtain ⟨-, quanta, finite, positive, most⟩ := checkSeconds_eq_ok_iff.1 seconds
  have limit : maxSeconds = 600 := rfl
  rw [limit] at most
  refine ⟨⟨quanta, finite, positive, most⟩, ?_, ofWord_word _, isHosted_of_checkEndpoint address,
    carries_of_execute settings, fun setup own => carries_of_runFrom own,
    carries_of_transcript settings, rfl, rfl, rfl, rfl⟩
  cases settings.verbosity <;> decide

/-- A truth value is a number of seconds, and the default endpoint an
address. -/
theorem checked_settings_on_the_wire_true :
    let settings : Settings := { Settings.default with timeout := .one }
    Sources.settings ⟨[("request_timeout_seconds", .bool true)], [], []⟩ = .ok settings ∧
      Web.IsHosted settings.endpoint ∧
      ∀ r ∈ (Exchange.execute (endpoint settings) "q" (.response 200 [0x31])).requests,
        Carries settings r := by
  intro settings
  have made : Sources.settings ⟨[("request_timeout_seconds", .bool true)], [], []⟩ =
      .ok settings := by
    refine ofRaw_eq_ok_iff.2 ⟨by decide, fun f => ?_⟩
    cases f with
    | timeout =>
      exact checkSeconds_eq_ok_iff.2 ⟨rfl, _, rfl, Binary64.quantaOfOne_pos,
        Nat.le_mul_of_pos_left _ (by decide)⟩
    | endpoint => exact checkEndpoint_default
    | environment | initialQuery | defaultLanguage | verbosity => rfl
  obtain ⟨-, -, -, hosted, executed, -⟩ := checked_settings_on_the_wire made
  exact ⟨made, hosted, executed _ _⟩

end QueryConsole.Session
