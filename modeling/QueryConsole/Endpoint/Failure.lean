import QueryConsole.Json.Document
import QueryConsole.Query.State
import QueryConsole.Text.Line
import QueryConsole.Text.Quoted
/-!
# Failures of a submission

How a submission may fail. A `Refusal` is a failure that the endpoint is
known to cause: the connection broke, the status was no success, or the
body was no JSON. A `Crash` is any other; what the exchange raises on its
own account is a `CallFault`. Faults of a connection and of a call come in
classes that are not known beforehand, so a class is given by its name,
which stands for a message that is empty.
-/

namespace QueryConsole

/-- A text, or the name of what it is the text of if it is empty. -/
def Text.orName (t name : Text) : Text :=
  if t.isEmpty then name else t

/-- A class of what an exchange may raise beside faults of the connection.
It has a name; in a trace its place stands before the name, unless it has
none; and it may quote the text that it is raised with, as the class of
missing keys does. -/
structure CallFault where
  name : Text
  place : Option Text
  isQuoted : Bool
  deriving DecidableEq, Repr

namespace CallFault

/-- The name of a fault in a trace. -/
def traceName (f : CallFault) : Text :=
  match f.place with
  | none => f.name
  | some place => place ++ "." ++ f.name

/-- The message of a fault that is raised with a text, or without any. -/
def message (f : CallFault) : Option Text → Text
  | none => []
  | some t => if f.isQuoted then t.quoted else t

end CallFault

/-- A failure that is part of the endpoint's contract. `general` is one of
no further kind. -/
inductive Refusal
  | general (message : Text)
  | transport (message : Text)
  | httpStatus (status : Int)
  | parse (message : Text)
  deriving DecidableEq, Repr

namespace Refusal

/-- The kind under which a refusal is recorded. -/
def kind : Refusal → ErrorKind
  | general _ => .transport
  | transport _ => .transport
  | httpStatus _ => .httpStatus
  | parse _ => .parse

/-- The message of a refusal. -/
def message : Refusal → Text
  | general message => message
  | transport message => message
  | httpStatus status => "Endpoint responded with status " ++ Text.ofInt status ++ "."
  | parse message => message

end Refusal

/-- A failure outside the endpoint's contract. -/
inductive Crash
  | unencodable (fault : EncodeFault)
  | clientClosed
  | tooDeep (bracket : Json.Bracket)
  | call (fault : CallFault) (message : Option Text)
  deriving DecidableEq, Repr

namespace Crash

/-- The name of a crash. -/
def name : Crash → Text
  | unencodable _ => "UnicodeEncodeError"
  | clientClosed => "RuntimeError"
  | tooDeep _ => "RecursionError"
  | call fault _ => fault.name

/-- The name of a crash in a trace. -/
def traceName : Crash → Text
  | call fault _ => fault.traceName
  | c => c.name

/-- The message of a crash. -/
def message : Crash → Text
  | unencodable fault => fault.message
  | clientClosed => "Cannot send a request, as the client has been closed."
  | tooDeep bracket => (Json.Fault.tooDeep bracket).message []
  | call fault message => fault.message message

/-- What is told of a crash: its message, or its name if that is empty. -/
def detail (c : Crash) : Text :=
  c.message.orName c.name

/-- The last line of the trace of a crash. -/
def traceLine (c : Crash) : Text :=
  Text.lastLine
    (if c.message.isEmpty then c.traceName else c.traceName ++ ": " ++ c.message)

end Crash

/-- How a submission fails. -/
inductive Failure
  | refused (refusal : Refusal)
  | crashed (crash : Crash)
  | cancelled (message : Option Text)
  deriving DecidableEq, Repr

/-- The message of a failure. -/
def Failure.message : Failure → Text
  | refused refusal => refusal.message
  | crashed crash => crash.message
  | cancelled message => message.getD []

end QueryConsole
