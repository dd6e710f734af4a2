import QueryConsole.Event
/-!
# The exchange with the endpoint

One submission sends one request and reads one reply. `Exchange.send` is
the part before the reply and `Exchange.receive` the part after it;
`Exchange.execute` is both for a reply that is there at once.
`Exchange.send_cases` says what keeps a request from leaving.
-/

namespace QueryConsole

/-- Where queries go, and how many seconds each stage of the exchange may
take. -/
structure Endpoint where
  url : Text
  timeout : Binary64
  deriving DecidableEq, Repr

/-- A request as it leaves. -/
structure Request where
  method : String
  url : Text
  contentType : String
  body : Bytes
  timeout : Binary64
  deriving DecidableEq, Repr

/-- What comes back for a request: a response, a broken connection by the
name and the message of its fault, or anything else that is raised. -/
inductive Reply
  | response (status : Int) (body : Bytes)
  | broken (name message : Text)
  | raised (failure : Failure)
  deriving DecidableEq, Repr

namespace Exchange

/-- The request that carries a query. -/
def request (endpoint : Endpoint) (body : Bytes) : Request :=
  ⟨"POST", endpoint.url, "text/plain", body, endpoint.timeout⟩

/-- What an exchange logs and what it comes to. -/
structure Stage (α : Type) where
  events : List Event
  outcome : Except Failure α
  deriving Repr

/-- Up to the request: a query is encoded before the client is asked whether
it is still open. -/
def send (endpoint : Endpoint) (isOpen : Bool) (query : Text) : Stage Request :=
  ⟨[.endpointRequest endpoint.url query.length],
    match Utf8.encodeScalars query with
    | .error fault => .error (.crashed (.unencodable fault))
    | .ok body =>
      if isOpen then .ok (request endpoint body) else .error (.crashed .clientClosed)⟩

/-- **What keeps a request from leaving**: a query that cannot be encoded,
over any client; and a closed client, for any other query. -/
theorem send_cases (endpoint : Endpoint) (query : Text) :
    (∃ fault, Utf8.encodeScalars query = .error fault ∧
      ∀ isOpen, (send endpoint isOpen query).outcome = .error (.crashed (.unencodable fault))) ∨
    (∃ body, Utf8.encodeScalars query = .ok body ∧
      (send endpoint true query).outcome = .ok (request endpoint body) ∧
      (send endpoint false query).outcome = .error (.crashed .clientClosed)) := by
  cases encoded : Utf8.encodeScalars query with
  | error fault => exact .inl ⟨fault, rfl, fun isOpen => by simp only [send, encoded]⟩
  | ok body => exact .inr ⟨body, rfl, by simp [send, encoded], by simp [send, encoded]⟩

/-- Whether a status is a success. -/
def isSuccess (status : Int) : Bool :=
  200 ≤ status && status ≤ 299

/-- The value of the body of a successful response. -/
def readBody (body : Bytes) : Except Failure Json :=
  match Document.read body with
  | .ok v => .ok v
  | .error (.unreadable _ (.tooDeep bracket)) => .error (.crashed (.tooDeep bracket))
  | .error fault => .error (.refused (.parse fault.message))

/-- What a reply comes to. The body of a response that is no success is
not looked at. -/
def receive (endpoint : Endpoint) : Reply → Stage Json
  | .response status body =>
    ⟨[.endpointResponse endpoint.url status],
      if isSuccess status then readBody body else .error (.refused (.httpStatus status))⟩
  | .broken name message => ⟨[], .error (.refused (.transport (message.orName name)))⟩
  | .raised failure => ⟨[], .error failure⟩

/-- A whole exchange: what it logs, the requests it sends, and what it
comes to. -/
structure Execution where
  events : List Event
  requests : List Request
  outcome : Except Failure Json
  deriving Repr

/-- **A query executed over an open client, with the reply at hand.** -/
def execute (endpoint : Endpoint) (query : Text) (reply : Reply) : Execution :=
  let sent := send endpoint true query
  match sent.outcome with
  | .error failure => ⟨sent.events, [], .error failure⟩
  | .ok request =>
    let received := receive endpoint reply
    ⟨sent.events ++ received.events, [request], received.outcome⟩

end Exchange

end QueryConsole
