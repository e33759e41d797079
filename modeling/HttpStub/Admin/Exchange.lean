import HttpStub.Admin.Message
import HttpStub.Admin.Operation
import HttpStub.Text.Utf8

/-!
# Exchanges

An operation is one exchange with the server. The transport brings a message to the server in two
phases, first up to status and headers of the reply and then through its body, and each of them may
fail. A reply that arrived in full is judged by its status alone, and only then is its body decoded.
-/

namespace HttpStub.Admin

/-- How a phase of the transport fails. -/
inductive Breakdown where
  /-- The time is up. -/
  | timeout
  /-- The connection breaks. -/
  | broken
deriving DecidableEq

/-- What becomes of a message. -/
inductive Delivery where
  /-- It does not reach the server. -/
  | unreachable
  /-- It reaches the server, and no status comes back. -/
  | unanswered (why : Breakdown)
  /-- Status and headers come back, but not all of the body. -/
  | cut (status : Http.Status) (headers : Http.HeaderMap) (why : Breakdown)
  /-- The whole reply comes back. -/
  | received (status : Http.Status) (headers : Http.HeaderMap) (body : List UInt8)
      (latency : Duration)
deriving DecidableEq

/-- Whether the message gets to the server, be it answered or not. -/
def Delivery.reachesServer : Delivery → Bool
  | .unreachable => false
  | .unanswered _ | .cut .. | .received .. => true

/-- Carries messages: tells of each `Message` what becomes of it. -/
abbrev Link := Message → Delivery

/-- The level of a log entry. -/
inductive Level where
  | debug
  | info
  | warn
  | error
deriving DecidableEq

/-- The name of a level. -/
def Level.tag : Level → String
  | .debug => "DEBUG"
  | .info => "INFO"
  | .warn => "WARN"
  | .error => "ERROR"

/-- What is worth a log entry. -/
inductive Event where
  /-- An operation begins. -/
  | executing
  /-- A whole reply has come. -/
  | received
  /-- The server reports a failure of its own. -/
  | serverFailed
  /-- The reply has another status than the one expected. -/
  | unexpectedStatus
  /-- The body of the reply cannot be decoded. -/
  | undecodable
  /-- The server has taken a rule. -/
  | registered
deriving DecidableEq

namespace Event

/-- The level of an entry. -/
def level : Event → Level
  | .executing => .debug
  | .received => .info
  | .serverFailed => .warn
  | .unexpectedStatus => .error
  | .undecodable => .error
  | .registered => .debug

/-- The wording of an entry. -/
def message : Event → String
  | .executing => "Executing admin request"
  | .received => "Received admin response"
  | .serverFailed => "Mock server error"
  | .unexpectedStatus => "Unexpected admin response status"
  | .undecodable => "Failed to deserialize admin response"
  | .registered => "Registered stub mapping"

end Event

/-- What `Client.perform` has done: the messages that got to the server, the log, and the result. -/
structure Exchange (ρ : Type) where
  sent : List Message
  log : List Event
  result : Except Error (Answer ρ)

variable {ρ : Type}

namespace Operation

/-- The entry that closes the log of a successful operation; only `Operation.stubFor` has one. -/
def closing : Operation ρ → List Event
  | .stubFor _ => [.registered]
  | _ => []

/-- Judges a whole reply: first its status against `Request.expected`, then its body by
`Operation.decoder?`. -/
def judge (op : Operation ρ) (r : Reply String) : List Event × Except Error (Answer ρ) :=
  let expected := op.request.expected
  -- The status decides first: the body of an unexpected reply is kept, but not decoded.
  if r.status ≠ expected then
    (if r.status.isServerError then [.serverFailed] else [.unexpectedStatus],
      .error (.unexpectedStatus r.status expected r.data r.headers))
  else
    match op.decoder? with
    -- No notice is taken of the body, so it may be anything.
    | none => (op.closing, .ok .done)
    | some decode =>
      match decode r with
      | .ok answer => (op.closing, .ok answer)
      | .error e => ([.undecodable], .error (.undecodable r.status r.data e.message))

/-- What a `Delivery` means for an operation. Only a timeout before the status is reported as one.
-/
def conclude (op : Operation ρ) : Delivery → List Event × Except Error (Answer ρ)
  | .unreachable => ([], .error .network)
  | .unanswered .timeout => ([], .error .timeout)
  | .unanswered .broken => ([], .error .network)
  -- Whatever stops the body counts as a broken connection, a timeout too.
  | .cut .. => ([], .error .network)
  | .received status headers body latency =>
    -- The body is taken for UTF-8, with replacement characters where it is none.
    let text := String.ofList (Text.Utf8.decodeLossy body)
    let (events, result) := op.judge ⟨text, text, status, headers, latency⟩
    (.received :: events, result)

end Operation

/-- Carries out an operation over a `Link`. Nothing is sent if the document for it cannot be
written. -/
def Client.perform (c : Client) (link : Link) (op : Operation ρ) : Exchange ρ :=
  match op.body? with
  | .error failure => ⟨[], [.executing], .error (.unserializable failure.message)⟩
  | .ok body =>
    -- One message, and the link is asked once: nothing is tried again.
    let message := c.message op.request body
    let delivery := link message
    let (events, result) := op.conclude delivery
    ⟨if delivery.reachesServer then [message] else [], .executing :: events, result⟩

end HttpStub.Admin
