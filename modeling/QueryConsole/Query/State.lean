import QueryConsole.Json.Value
/-!
# The state of a query

A `Query.State` is the text of the query, which may be edited at any time,
and the `Outcome` of its latest submission. Results and failures are
carried by the outcomes that have them, so neither is there without its
status. The accessors give the parts of an outcome one by one.
-/

namespace QueryConsole

/-- What kind of failure a submission ended with. -/
inductive ErrorKind
  | transport
  | httpStatus
  | parse
  deriving DecidableEq, Repr

namespace ErrorKind

/-- All kinds of failure. -/
def all : List ErrorKind := [transport, httpStatus, parse]

/-- The word for a kind of failure. -/
def word : ErrorKind → String
  | transport => "transport"
  | httpStatus => "http_status"
  | parse => "parse"

/-- The kind that a word is for. -/
def ofWord? (t : Text) : Option ErrorKind :=
  all.find? fun k => Text.ofString k.word == t

end ErrorKind

namespace Query

/-- The query that a console starts with. -/
def initialText : Text := "SELECT * FROM User WHERE id = 10"

/-- Where the latest submission stands. -/
inductive Status
  | idle
  | loading
  | success
  | error
  deriving DecidableEq, Repr

/-- The word for a status. -/
def Status.word : Status → String
  | idle => "idle"
  | loading => "loading"
  | success => "success"
  | error => "error"

/-- All statuses. -/
def Status.all : List Status := [.idle, .loading, .success, .error]

/-- What has become of the latest submission. -/
inductive Outcome
  | idle
  | loading
  | success (result : Json)
  | error (kind : ErrorKind) (message : Text)
  deriving Repr

namespace Outcome

/-- The status of an outcome. -/
def status : Outcome → Status
  | idle => .idle
  | loading => .loading
  | success _ => .success
  | error _ _ => .error

/-- The result, if there is one. -/
def result? : Outcome → Option Json
  | success result => some result
  | _ => none

/-- The kind of the failure, if there is one. -/
def errorKind? : Outcome → Option ErrorKind
  | error kind _ => some kind
  | _ => none

/-- The message of the failure, if there is one. -/
def errorMessage? : Outcome → Option Text
  | error _ message => some message
  | _ => none

end Outcome

/-- The text of the query and the outcome of its latest submission. -/
structure State where
  queryText : Text
  outcome : Outcome
  deriving Repr

namespace State

/-- A state before any submission. -/
def new (queryText : Text) : State := ⟨queryText, .idle⟩

/-- The status of the latest submission. -/
def status (s : State) : Status := s.outcome.status

/-- Whether the latest submission is under way. -/
def isLoading (s : State) : Bool := s.status == .loading

/-- Replaces the text of the query. -/
def setText (text : Text) (s : State) : State := { s with queryText := text }

/-- A submission begins. -/
def begin (s : State) : State := { s with outcome := .loading }

/-- The submission gave a result. -/
def succeed (result : Json) (s : State) : State := { s with outcome := .success result }

/-- The submission failed. -/
def fail (kind : ErrorKind) (message : Text) (s : State) : State :=
  { s with outcome := .error kind message }

/-- There is no submission any more. -/
def reset (s : State) : State := { s with outcome := .idle }

end State

end Query

end QueryConsole
