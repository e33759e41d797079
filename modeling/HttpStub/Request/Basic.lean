import HttpStub.Request.Multipart
import HttpStub.Request.Url

/-!
# Request patterns

A request pattern describes the requests that a stub answers, or the entries of the journal that a
query is about. Of each kind of description that can be given only once the last one counts, under
each parameter name likewise, while body and part patterns are gathered.
-/

namespace HttpStub

/-- User name and password of basic authentication. -/
structure Credentials where
  username : String
  password : String
deriving DecidableEq

/-- What a request has to be like. Begun by `RequestPattern.of` and completed by
`RequestPattern.apply`. -/
structure RequestPattern where
  method : String
  url : UrlPattern
  scheme : Option String
  host : Option Matcher
  port : Option UInt16
  headers : Dict Matcher
  queryParameters : Dict Matcher
  pathParameters : Dict Matcher
  formParameters : Dict Matcher
  cookies : Dict Matcher
  bodyPatterns : List Matcher
  multipartPatterns : List MultipartPattern
  credentials : Option Credentials
deriving DecidableEq

namespace RequestPattern

/-- Any request of this method to such a URL. -/
def of (method : String) (url : UrlPattern) : RequestPattern where
  method := method
  url := url
  scheme := none
  host := none
  port := none
  headers := .empty
  queryParameters := .empty
  pathParameters := .empty
  formParameters := .empty
  cookies := .empty
  bodyPatterns := []
  multipartPatterns := []
  credentials := none

/-- Schemes of authentication whose credentials stand behind a word in the header `authorization`.
-/
inductive AuthScheme where
  /-- A token that the bearer shows. -/
  | bearer
  /-- A token under a word of its own. -/
  | token
  /-- The credentials of digest authentication. -/
  | digest
deriving DecidableEq

/-- The word in front of the credentials, with the space behind it. -/
def AuthScheme.word : AuthScheme → String
  | .bearer => "Bearer "
  | .token => "Token "
  | .digest => "Digest "

/-- The header that carries credentials. -/
def authorization : String := "Authorization"

/-- Accepts a header value that is the scheme's word and credentials that `m` accepts. For bearer
tokens the word and the credentials are two conditions on one value, for the others they are the
conditions on a list of values, see `Matcher.hasExactly`. -/
def AuthScheme.matcher (scheme : AuthScheme) (m : Matcher) : Matcher :=
  let start := Matcher.startsWith scheme.word
  -- The word is put into the matcher itself, so that it is about the whole value.
  let whole := m.prepend scheme.word
  match scheme with
  | .bearer => start.and whole
  -- Two matchers for one header, which has to have two values then.
  | .token | .digest => .hasExactly [start, whole]

/-- One thing that a pattern may ask for. -/
inductive Step where
  /-- The method, in the place of the one before. -/
  | method (method : String)
  /-- How the URL is compared. -/
  | url (url : UrlPattern)
  | scheme (scheme : String)
  | host (matcher : Matcher)
  | port (port : UInt16)
  /-- A header, by name. -/
  | header (name : String) (matcher : Matcher)
  /-- A parameter of the query, by name. -/
  | queryParameter (name : String) (matcher : Matcher)
  /-- A variable of the path template, by name. -/
  | pathParameter (name : String) (matcher : Matcher)
  /-- A parameter of a form in the body, by name. -/
  | formParameter (name : String) (matcher : Matcher)
  /-- A cookie, by name. -/
  | cookie (name : String) (matcher : Matcher)
  /-- One more condition on the body. -/
  | bodyPattern (matcher : Matcher)
  /-- One more condition on the parts of the body. -/
  | multipartPattern (pattern : MultipartPattern)
  /-- User name and password, as `Credentials`. -/
  | basicAuth (username password : String)
  /-- Credentials behind the word of a scheme, by `AuthScheme.matcher`. -/
  | auth (scheme : AuthScheme) (credentials : Matcher)
deriving DecidableEq

/-- Asks for one more thing. What is in a dictionary is replaced by `Dict.insert`, what is in a list
is kept. -/
def apply (r : RequestPattern) : Step → RequestPattern
  | .method method => { r with method := method }
  | .url url => { r with url := url }
  | .scheme scheme => { r with scheme := some scheme }
  | .host matcher => { r with host := some matcher }
  | .port port => { r with port := some port }
  | .header name matcher => { r with headers := r.headers.insert name matcher }
  | .queryParameter name matcher =>
    { r with queryParameters := r.queryParameters.insert name matcher }
  | .pathParameter name matcher =>
    { r with pathParameters := r.pathParameters.insert name matcher }
  | .formParameter name matcher =>
    { r with formParameters := r.formParameters.insert name matcher }
  | .cookie name matcher => { r with cookies := r.cookies.insert name matcher }
  | .bodyPattern matcher => { r with bodyPatterns := r.bodyPatterns ++ [matcher] }
  | .multipartPattern pattern => { r with multipartPatterns := r.multipartPatterns ++ [pattern] }
  | .basicAuth username password => { r with credentials := some ⟨username, password⟩ }
  -- A header like any other: one that was set under the same name is gone.
  | .auth scheme credentials =>
    { r with headers := r.headers.insert authorization (scheme.matcher credentials) }

/-- Asks for several things by `apply`, one after the other. -/
def applyAll (r : RequestPattern) (steps : List Step) : RequestPattern :=
  steps.foldl apply r

/-- `Credentials` as a document. -/
def credentialsJson (c : Credentials) : Json :=
  .object [("username", .string c.username), ("password", .string c.password)]

/-- A pattern as a document: what it does not ask for is left out. -/
def toJson (r : RequestPattern) : Json :=
  .object
    -- How the URL is compared tells the key that it stands under.
    (("method", .string r.method) :: (r.url.strategy.tag, .string r.url.value) ::
      (Json.member? "scheme" .string r.scheme ++
        Json.member? "host" Matcher.toJson r.host ++
        Json.member? "port" (fun port => .nat port.toNat) r.port ++
        Json.dictMember "headers" Matcher.toJson r.headers ++
        Json.dictMember "queryParameters" Matcher.toJson r.queryParameters ++
        Json.dictMember "pathParameters" Matcher.toJson r.pathParameters ++
        Json.dictMember "formParameters" Matcher.toJson r.formParameters ++
        Json.dictMember "cookies" Matcher.toJson r.cookies ++
        Json.listMember "bodyPatterns" Matcher.toJson r.bodyPatterns ++
        Json.listMember "multipartPatterns" MultipartPattern.toJson r.multipartPatterns ++
        Json.member? "basicAuthCredentials" credentialsJson r.credentials))

end RequestPattern

end HttpStub
