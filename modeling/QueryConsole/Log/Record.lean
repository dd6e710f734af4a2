import QueryConsole.Log.Level
import QueryConsole.Json.Printer
import QueryConsole.Text.Line
/-!
# Log records

A `Log.Record` is one logged event: its level, its name, its fields and,
for a crash, the last line of the trace of what was raised. It is written
as one line of JSON. A `Log.Call` asks for an event to be logged, and
`Call.perform` makes its record if the threshold of the log admits it.
-/

namespace QueryConsole.Log

/-- A logged event. -/
structure Record where
  level : Level
  event : Text
  fields : List (Text × Json)
  trace : Option Text
  deriving Repr

namespace Record

/-- The names of what a log adds to a line by itself, or asks for a trace or
a stack by; fields of these names are not written. -/
def reserved : List Text := ["level", "timestamp", "exc_info", "stack_info"]

/-- A field as it is shown: of a trace, which stands over several lines, the
last line. -/
def shownField (name : Text) (value : Json) : Json :=
  match value with
  | .string t => if name = "exception" then .string t.lastLine else value
  | _ => value

/-- The members of the line that a record is written as. -/
def members (r : Record) : Json.Members :=
  let own : Json.Members := [("event", .string r.event), ("level", .string r.level.word)]
  let trace : Json.Members :=
    match r.trace with
    | some t => [("exception", .string t)]
    | none => []
  (r.fields.map fun f => (f.1, shownField f.1 f.2)) ++ own ++ trace

/-- The line that a record is written as. -/
def line (r : Record) : Text :=
  (Json.object r.members).compact

end Record

/-- The records of a log that a threshold admits. -/
def filter (t : Threshold) (records : List Record) : List Record :=
  records.filter fun r => t.admits r.level

/-! ## Calls -/

/-- Why a call logs nothing: there is no such method, or a field has the
name of something that `callee` is given already. -/
inductive CallFault
  | noMethod (threshold : Threshold) (word : Text)
  | twice (callee : String) (name : Text)
  deriving DecidableEq, Repr

/-- The message of a call's fault. -/
def CallFault.message : CallFault → Text
  | noMethod threshold word =>
    "'BoundLoggerFilteringAt" ++ Text.ofString threshold.title ++
      "' object has no attribute '" ++ word ++ "'"
  | twice callee name =>
    Text.ofString callee ++ "() got multiple values for argument '" ++ name ++ "'"

/-- A call of a method with an event and its fields. -/
structure Call where
  method : Method
  event : Text
  fields : List (Text × Json)
  deriving Repr

namespace Call

/-- The call of the method with a given name. -/
def ofWord (threshold : Threshold) (word event : Text) (fields : List (Text × Json)) :
    Except CallFault Call :=
  match Method.all.find? fun m => Text.ofString m.word == word with
  | some method => .ok ⟨method, event, fields⟩
  | none => .error (.noMethod threshold word)

/-- What takes a call in: calls that are not written are taken in by what
does nothing. -/
def callee (threshold : Threshold) (method : Method) : String :=
  if method = .exception then "exception"
  else if threshold.admits method.level then
    "_make_filtering_bound_logger.<locals>.make_method.<locals>.meth"
  else "_nop"

/-- The record that a call makes. -/
def record (c : Call) : Record :=
  ⟨c.method.level, c.event, c.fields.filter fun f => !Record.reserved.contains f.1, none⟩

/-- **What a call writes** to a log with a threshold. -/
def perform (threshold : Threshold) (c : Call) : Except CallFault (Option Record) :=
  let given : List Text := ["self", "event"]
  match c.fields.find? fun f => given.contains f.1 with
  | some f => .error (.twice (callee threshold c.method) f.1)
  | none =>
    if threshold.admits c.method.level then
      if c.fields.any fun f => f.1 == Text.ofString "method_name" then
        .error (.twice "BoundLoggerBase._proxy_to_logger" "method_name")
      else .ok (some c.record)
    else .ok none

end Call

end QueryConsole.Log
