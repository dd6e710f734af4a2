import QueryConsole.Catalog.English
import QueryConsole.Query.Presentation
import QueryConsole.Settings.Sources
import QueryConsole.Submission.Machine
/-!
# A session at the console

One session submits one query and prints what becomes of it. The query is
that of the command line, or is asked for; then come the title, what the
view shows while the query is under way, and what it shows in the end, with
the lines of the log between them. A `Session.Transcript` is everything that
can be seen of a session; `Session.transcript` is the session for a reply
that is there when it is asked for, and `Session.ofSources` makes the
settings first.
-/

namespace QueryConsole.Session

open Submission

/-- A line that is printed: plain text, or a record of the log. -/
inductive Line
  | text (t : Text)
  | log (r : Log.Record)
  deriving Repr

/-- How a session ends. -/
inductive Ending
  | exit (code : Nat)
  | cancelled (message : Option Text)
  | endOfInput
  | escaped (fault : Catalog.Fault)
  deriving DecidableEq, Repr

/-- The message of an ending that is no exit. -/
def Ending.message : Ending → Text
  | exit _ => []
  | cancelled message => message.getD []
  | endOfInput => "EOF when reading a line"
  | escaped fault => fault.message

/-- What can be seen of a session. -/
structure Transcript where
  ending : Ending
  lines : List Line
  prompts : List Text
  requests : List Request
  deriving Repr

/-- What is typed at the prompt. -/
structure Input where
  arguments : List Text
  entered : Option Text
  deriving Repr

/-- The messages of a session. -/
def messages (settings : Settings) : Catalog.Messages :=
  Catalog.Messages.new Catalog.bundled settings.defaultLanguage

/-- The endpoint of a session. -/
def endpoint (settings : Settings) : Endpoint :=
  ⟨settings.endpoint, settings.timeout⟩

/-- How many seconds a client waits in each stage of an exchange. -/
structure Client where
  connect : Binary64
  read : Binary64
  write : Binary64
  pool : Binary64
  deriving DecidableEq, Repr

/-- A client that waits equally long in each stage. -/
def Client.waiting (seconds : Binary64) : Client :=
  ⟨seconds, seconds, seconds, seconds⟩

/-- The client of a session. -/
def client (settings : Settings) : Client :=
  .waiting settings.timeout

/-- The setup of a session's machine. -/
def setup (settings : Settings) : Setup :=
  ⟨endpoint settings, messages settings, none⟩

/-- A message as it is printed: text as it is, anything else as JSON. -/
def printed (message : Json) : Text :=
  match message with
  | .string t => t
  | other => other.compact

/-- The lines that printing a text makes. -/
def textLines (t : Text) : List Line :=
  (t.splitOn (.scalar '\n')).map Line.text

/-- The lines that are written for events. -/
def logLines (settings : Settings) (events : List Event) : List Line :=
  (Log.filter settings.verbosity.threshold (events.map Event.record)).map Line.log

/-- The prompt for a query. -/
def promptText (settings : Settings) : Except Catalog.Fault Text :=
  ((messages settings).get "ui.prompt" none []).map fun message =>
    printed message ++ " [" ++ settings.initialQuery ++ "]: "

/-- The query that a typed line asks for: a line of blanks asks for the one
that is there. -/
def queryOfLine (current line : Text) : Text :=
  if line.strip.isEmpty then current else line

/-- The query of a session, with the prompts that asked for it; a session
whose input ends at the prompt has none. -/
def query (settings : Settings) (input : Input) : List Text × Except Ending Text :=
  if input.arguments.isEmpty then
    match promptText settings with
    | .error fault => ([], .error (.escaped fault))
    | .ok prompt =>
      match input.entered with
      | none => ([prompt], .error .endOfInput)
      | some line => ([prompt], .ok (queryOfLine settings.initialQuery line))
  else ([], .ok (Text.intercalate " " input.arguments))

/-- The lines that show the view of a machine. -/
def viewLines (settings : Settings) (m : Machine) : Except Catalog.Fault (List Line) :=
  (m.state.view.shown (messages settings)).map fun shown => textLines (printed shown)

/-- The exit code for a state. -/
def exitCode (state : Query.State) : Nat :=
  if state.status = .success then 0 else 1

/-- The machine right after the query was submitted. -/
def submitted (query : Text) (reply : Reply) : Machine :=
  (Machine.new (.new query)).submit none (some reply)

/-- The machine when the session is over: the submission has been waited
for, and nothing is left under way. -/
def finished (settings : Settings) (query : Text) (reply : Reply) : Machine :=
  ((submitted query reply).await (setup settings) 1).close (setup settings)

/-- The end of a session that shows a last view. -/
def conclusion (settings : Settings) (m : Machine) : List Line × Ending :=
  match (m.task? 1).bind Task.ending? with
  | some (.cancelled message) => ([], .cancelled message)
  | some (.escaped fault) => ([], .escaped fault)
  | _ =>
    match viewLines settings m with
    | .ok lines => (lines, .exit (exitCode m.state))
    | .error fault => ([], .escaped fault)

/-- A session after its query is known. -/
def runQuery (settings : Settings) (prompts : List Text) (query : Text) (reply : Reply) :
    Transcript :=
  match (messages settings).get "ui.title" none [] with
  | .error fault => ⟨.escaped fault, [], prompts, []⟩
  | .ok title =>
    let before := submitted query reply
    let opening := textLines (printed title) ++
      logLines settings [.starting (Text.ofString settings.environment.word) settings.endpoint] ++
      logLines settings before.log
    match viewLines settings before with
    | .error fault => ⟨.escaped fault, opening, prompts, []⟩
    | .ok loading =>
      let after := finished settings query reply
      let (closing, ending) := conclusion settings after
      ⟨ending,
        opening ++ loading ++ logLines settings (after.log.drop before.log.length) ++ closing,
        prompts, after.wire.map Sent.request⟩

/-- **The session for a reply** that is there when it is asked for. -/
def transcript (settings : Settings) (input : Input) (reply : Reply) : Transcript :=
  match query settings input with
  | (prompts, .error ending) => ⟨ending, [], prompts, []⟩
  | (prompts, .ok query) => runQuery settings prompts query reply

/-- The session with the settings of some sources, if they are right. -/
def ofSources (sources : Settings.Sources) (input : Input) (reply : Reply) :
    Except (List Violation) Transcript :=
  sources.settings.map fun settings => transcript settings input reply

end QueryConsole.Session
