import QueryConsole.Endpoint.Failure
import QueryConsole.Log.Record
/-!
# Events

What the console logs, and the record of each event. The texts of queries
are logged by their length alone.
-/

namespace QueryConsole

/-- What the console logs. -/
inductive Event
  | starting (environment endpoint : Text)
  | endpointRequest (url : Text) (queryLength : Nat)
  | endpointResponse (url : Text) (status : Int)
  | started (sequence queryLength : Nat)
  | succeeded (sequence : Nat)
  | failed (sequence : Nat) (refusal : Refusal)
  | cancelled (sequence : Nat)
  | crashed (sequence : Nat) (crash : Crash)
  | superseded (sequence latest : Nat)
  deriving DecidableEq, Repr

namespace Event

/-- The level of an event. -/
def level : Event → Log.Level
  | endpointRequest _ _ => .debug
  | endpointResponse _ _ => .debug
  | failed _ _ => .warning
  | crashed _ _ => .error
  | _ => .info

/-- The name of an event. -/
def name : Event → String
  | starting _ _ => "querypad_starting"
  | endpointRequest _ _ => "endpoint_request"
  | endpointResponse _ _ => "endpoint_response"
  | started _ _ => "submission_started"
  | succeeded _ => "submission_succeeded"
  | failed _ _ => "submission_failed"
  | cancelled _ => "submission_cancelled"
  | crashed _ _ => "submission_crashed"
  | superseded _ _ => "submission_superseded"

/-- The fields of an event. -/
def fields : Event → List (Text × Json)
  | starting environment endpoint =>
    [("environment", .string environment), ("endpoint", .string endpoint)]
  | endpointRequest url queryLength =>
    [("url", .string url), ("query_length", .int queryLength)]
  | endpointResponse url status => [("url", .string url), ("status_code", .int status)]
  | started sequence queryLength =>
    [("sequence", .int sequence), ("query_length", .int queryLength)]
  | succeeded sequence => [("sequence", .int sequence)]
  | failed sequence refusal =>
    [("sequence", .int sequence), ("kind", .string refusal.kind.word),
      ("error", .string refusal.message)]
  | cancelled sequence => [("sequence", .int sequence)]
  | crashed sequence _ => [("sequence", .int sequence)]
  | superseded sequence latest =>
    [("sequence", .int sequence), ("latest_sequence", .int latest)]

/-- The trace that is logged with an event. -/
def trace : Event → Option Text
  | crashed _ crash => some crash.traceLine
  | _ => none

/-- The record of an event. -/
def record (e : Event) : Log.Record :=
  ⟨e.level, Text.ofString e.name, e.fields, e.trace⟩

end Event

end QueryConsole
