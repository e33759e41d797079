import HttpStub.Http.Header
import HttpStub.Http.Status

/-!
# Errors

Everything that can go wrong, from making a matcher to an admin call. An error that comes from a
reply keeps the reply's status and body, since the server explains in the body what it did not like.
-/

namespace HttpStub

/-- What went wrong; worded by `Error.message`. -/
inductive Error where
  /-- The connection could not be made or broke down. -/
  | network
  /-- No reply came in time. -/
  | timeout
  /-- The reply has another status than the one expected. -/
  | unexpectedStatus (status expected : Http.Status) (body : String) (headers : Http.HeaderMap)
  /-- The body of the reply is not what the operation decodes. -/
  | undecodable (status : Http.Status) (body reason : String)
  /-- What was to be sent cannot be written as JSON. -/
  | unserializable (reason : String)
  /-- A matcher cannot be made of what was given for it. -/
  | invalidMatcher (reason : String)
  /-- A setting of the client is refused, or one that it needs is missing. -/
  | configuration (reason : String)
  /-- The URL of the server cannot be parsed, see `Url.Fault.message`. -/
  | invalidUrl (reason : String)
deriving DecidableEq

namespace Error

/-- The wording of an error, with the reason that it was given. -/
def message : Error → String
  | .network => "Network error"
  | .timeout => "Request timed out"
  | .unexpectedStatus status expected body _ =>
    "HTTP error " ++ status.text ++ " (expected " ++ expected.text ++ "): " ++ body
  | .undecodable status _ reason =>
    "Failed to deserialize response (status " ++ status.text ++ "): " ++ reason
  | .unserializable reason => "Failed to serialize request: " ++ reason
  | .invalidMatcher reason => "Invalid matcher: " ++ reason
  | .configuration reason => "Configuration error: " ++ reason
  | .invalidUrl reason => "Invalid URL: " ++ reason

/-- The status of the reply, if the error comes from one. -/
def status? : Error → Option Http.Status
  | .unexpectedStatus status _ _ _ => some status
  | .undecodable status _ _ => some status
  | _ => none

/-- The body of the reply, if the error comes from one; there is a body wherever `status?` is one.
-/
def body? : Error → Option String
  | .unexpectedStatus _ _ body _ => some body
  | .undecodable _ body _ => some body
  | _ => none

/-- The server answered that there is nothing under the URL: `status?` is `Http.Status.notFound`. -/
def isNotFound (e : Error) : Bool :=
  e.status? = some .notFound

end Error

end HttpStub
