import HttpStub.Duration
import HttpStub.Http.Header
import HttpStub.Http.Status

/-!
# Replies

What a call of the server has brought: the decoded data, and beside it the reply as it came.
-/

namespace HttpStub

/-- Decoded data, with the reply that they come from. -/
structure Reply (α : Type) where
  /-- What the body was decoded to. -/
  data : α
  /-- The body as a text. -/
  raw : String
  /-- The status, that of success where the reply reaches the caller. -/
  status : Http.Status
  headers : Http.HeaderMap
  /-- From the start of sending until the body was read. -/
  latency : Duration
deriving DecidableEq

namespace Reply

variable {α β : Type}

/-- The same reply with other data. -/
def map (f : α → β) (r : Reply α) : Reply β :=
  { r with data := f r.data }

/-- The first value of a header, if `HeaderValue.visible?` shows it. Upper and lower case of the
name are the same. -/
def header? (r : Reply α) (name : String) : Option String := do
  let name ← Http.HeaderName.ofString? name
  let value ← r.headers.get? name
  value.visible?

end Reply

end HttpStub
