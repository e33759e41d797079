import HttpStub.Admin.Client
import HttpStub.Admin.Request
import HttpStub.Base64

/-!
# Messages

What a client sends for a request: the method, the URL, the headers and the body. User name and
password of the URL travel in a header and not in the URL. A body is announced as JSON and any kind
of reply is accepted, unless the headers of the client say otherwise.
-/

namespace HttpStub.Admin

/-- One message to a server, made by `Client.message`. -/
structure Message where
  method : String
  url : Url
  headers : Http.HeaderMap
  body : Option String
  /-- How long to wait for the end of the reply. -/
  timeout : Option Duration

namespace Message

/-- The header that carries user name and password. -/
def authorization : Http.HeaderName := ⟨"authorization"⟩

/-- The header that tells what a body is. -/
def contentType : Http.HeaderName := ⟨"content-type"⟩

/-- The header that tells what may be replied. -/
def accept : Http.HeaderName := ⟨"accept"⟩

/-- A part of a URL as the text that it encodes, if that is UTF-8. -/
def decoded? (encoded : List Char) : Option (List Char) :=
  Text.Utf8.decode? (Url.Percent.decode encoded)

/-- User name and password of a URL, if there are any. A password that is no text is left out. -/
def credentials? (url : Url) : Option (List Char × List Char) := do
  let username ← decoded? url.username
  let password := if url.password = [] then none else decoded? url.password
  -- An empty user name without a password is none at all.
  if username = [] ∧ password = none then none else return (username, password.getD [])

/-- The value that carries user name and password, in `Base64` letters. -/
def basicValue (username password : List Char) : Http.HeaderValue :=
  let letters := Base64.encode (Text.Utf8.encode (username ++ ':' :: password))
  ⟨Text.Utf8.encode ("Basic ".toList ++ letters)⟩

/-- The header for the `credentials?` of a URL. -/
def credentialHeaders (url : Url) : Http.HeaderMap :=
  match credentials? url with
  | some (username, password) =>
    Http.HeaderMap.empty.append authorization (basicValue username password)
  | none => .empty

/-- Adds a header unless there is one of its name. -/
def addIfAbsent (headers : Http.HeaderMap) (name : Http.HeaderName) (value : String) :
    Http.HeaderMap :=
  match headers.get? name with
  | some _ => headers
  | none => headers.append name ⟨Text.Utf8.encode value.toList⟩

/-- The headers of a message with or without a body. Kind of body and accepted replies are added by
`addIfAbsent`, so the client's own come first. -/
def headersFor (url : Url) (defaults : Http.HeaderMap) (hasBody : Bool) : Http.HeaderMap :=
  -- Headers of the client are added behind those of the URL, not put in their place.
  let given := defaults.fields.foldl (fun map field => map.append field.1 field.2)
    (credentialHeaders url)
  -- Only a message with a body says of what kind it is.
  let described := if hasBody then addIfAbsent given contentType "application/json" else given
  addIfAbsent described accept "*/*"

end Message

/-- The message of a client for a request. Its URL is that of `Client.endpoint` without user and
password, which go into a header. -/
def Client.message (c : Client) (r : Request) (body : Option String) : Message where
  method := r.method
  url := { c.endpoint r.path with username := [], password := [] }
  headers := Message.headersFor c.base c.headers body.isSome
  body := body
  timeout := c.timeout

end HttpStub.Admin
