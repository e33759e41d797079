import HttpStub.Grpc.Code
import HttpStub.Rule.Basic

/-!
# Stubs of remote calls

A remote call reaches the server as a post of its message, in JSON, to the path made of service and
method, and the outcome travels back in headers. A reply is a message, a failure with a reason, or a
broken connection; only a message has a body and can be delayed.
-/

namespace HttpStub.Grpc

/-- What the caller gets. -/
inductive Outcome where
  /-- A message, given as its JSON text. -/
  | message (json : String)
  /-- The call has failed with this code. -/
  | failure (code : Code) (reason : String)
  /-- The connection breaks. -/
  | broken (fault : NetworkFault)
deriving DecidableEq

/-- An `Outcome`, and how long it takes. -/
structure Reply where
  /-- What the caller gets. -/
  outcome : Outcome
  /-- How long it takes; only a message takes its time. -/
  delay : Option Delay
deriving DecidableEq

namespace Reply

/-- A message, given as its JSON text. -/
def json (text : String) : Reply := ⟨.message text, none⟩

/-- The data as a message, written by `Data.text?`. -/
def message (data : Data) : Except Error Reply :=
  match data.text? with
  | .ok text => .ok (json text)
  | .error failure => .error (.unserializable ("gRPC message: " ++ failure.message))

/-- A failure with a reason. -/
def failure (code : Code) (reason : String) : Reply := ⟨.failure code reason, none⟩

/-- A broken connection. -/
def broken (fault : NetworkFault) : Reply := ⟨.broken fault, none⟩

/-- The same reply after a delay, in the place of the one before. -/
def after (r : Reply) (delay : Delay) : Reply := { r with delay := some delay }

/-- The header that names the outcome. -/
def statusHeader : String := "grpc-status-name"

/-- The header that gives the reason of a failure. -/
def reasonHeader : String := "grpc-status-reason"

/-- The response that carries the reply: the outcome in `statusHeader`, and what belongs to it. -/
def response (r : Reply) : StubResponse :=
  match r.outcome with
  | .failure code reason =>
    StubResponse.ok.applyAll [.header statusHeader code.name, .header reasonHeader reason]
  -- The delay is not looked at but for a message.
  | .broken fault =>
    StubResponse.ok.applyAll [.header statusHeader Code.ok.name, .fault fault]
  | .message text =>
    let named := StubResponse.ok.apply (.header statusHeader Code.ok.name)
    let delayed := r.delay.elim named fun delay => named.apply (.delay delay)
    delayed.apply (.literalBody text)

end Reply

/-- Accepts a request message that is the same JSON as the data, by `Matcher.equalToJson` without
flags. -/
def equalToMessage (data : Data) : Except Error Matcher :=
  match data.text? with
  | .ok text => .ok (.equalToJson text [])
  | .error failure => .error (.invalidMatcher ("gRPC message: " ++ failure.message))

/-- A stub of one method, whatever its service; `MethodStub.rule` makes it a rule. -/
structure MethodStub where
  method : String
  /-- The matchers that every message has to fit. -/
  messages : List Matcher
  /-- What is answered, an empty message if nothing is set. -/
  reply : Option Reply
deriving DecidableEq

namespace MethodStub

/-- A stub that accepts every message. -/
def of (method : String) : MethodStub := ⟨method, [], none⟩

/-- One change to a stub. -/
inductive Step where
  /-- One more matcher for the message. -/
  | requestMessage (matcher : Matcher)
  /-- A reply in the place of the one before. -/
  | reply (reply : Reply)
deriving DecidableEq

/-- Makes one change: messages are gathered, of replies the last one counts. -/
def apply (s : MethodStub) : Step → MethodStub
  | .requestMessage matcher => { s with messages := s.messages ++ [matcher] }
  | .reply reply => { s with reply := some reply }

/-- The rule of a stub for a service; without a reply it answers with an empty message. -/
def rule (s : MethodStub) (id : Uuid) (service : String) : StubRule :=
  let url := UrlPattern.pathEqualTo ("/" ++ service ++ "/" ++ s.method)
  let start := StubRule.of id StubRule.Verb.post.method url
  -- Each matcher becomes a condition on the body, in the order they were given.
  let matching := s.messages.foldl (fun rule m => rule.apply (.request (.bodyPattern m))) start
  matching.apply (.respond (s.reply.getD (Reply.json "")).response)

end MethodStub

end HttpStub.Grpc
