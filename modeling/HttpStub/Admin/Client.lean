import HttpStub.Duration
import HttpStub.Error
import HttpStub.Url.Parse

/-!
# Clients

A client knows the URL of a server, the headers that go with every request, and how long to wait. It
is made from settings, of which only the URL is needed. Admin paths are put behind the path of the
URL, so a server may be mounted below others.
-/

namespace HttpStub.Admin

/-- Knows a server and how to talk to it; made by `Settings.build`. -/
structure Client where
  /-- The URL of the server. -/
  base : Url
  /-- The headers that go with every message. -/
  headers : Http.HeaderMap
  /-- How long to wait; without a limit, a call waits as long as the connection lasts. -/
  timeout : Option Duration

/-- The settings of a `Client` to be. -/
structure Settings where
  base : Option Url
  headers : Http.HeaderMap
  timeout : Option Duration

namespace Settings

/-- Nothing is set. -/
def empty : Settings := ⟨none, .empty, none⟩

/-- One setting. -/
inductive Step where
  /-- The URL of the server, which is parsed at once. -/
  | base (url : String)
  /-- A header for every message, in the place of those of its name. -/
  | header (name value : String)
  /-- How long to wait. -/
  | timeout (limit : Duration)
deriving DecidableEq

/-- Makes one setting, which may be refused. A header replaces one of the same name, in whatever
case it was written, as `Http.HeaderMap.insert` does. -/
def apply (s : Settings) : Step → Except Error Settings
  | .base url =>
    match Url.parse url with
    | .ok base => .ok { s with base := some base }
    | .error fault => .error (.invalidUrl fault.message)
  | .header name value =>
    match Http.HeaderName.ofString? name, Http.HeaderValue.ofString? value with
    | some name, some value => .ok { s with headers := s.headers.insert name value }
    -- Of a header with two faults the name is blamed.
    | none, _ => .error (.configuration
        ("Invalid header name: " ++ Http.HeaderFault.invalidName.message))
    | some _, none => .error (.configuration
        ("Invalid header value: " ++ Http.HeaderFault.invalidValue.message))
  | .timeout limit => .ok { s with timeout := some limit }

/-- Makes several settings by `apply`, up to the first that is refused. -/
def applyAll (s : Settings) (steps : List Step) : Except Error Settings :=
  steps.foldlM apply s

/-- The client of these settings; only the URL has to be set. -/
def build (s : Settings) : Except Error Client :=
  match s.base with
  | some base => .ok ⟨base, s.headers, s.timeout⟩
  | none => .error (.configuration "Base URL is required")

end Settings

namespace Client

/-- A client of the server at a URL, with nothing else set. -/
def ofUrl (url : String) : Except Error Client := do
  (← Settings.empty.apply (.base url)).build

/-- A text without the slashes at its end. -/
def withoutTrailingSlashes (cs : List Char) : List Char :=
  (cs.reverse.dropWhile (· = '/')).reverse

/-- The URL of a path below that of the server. It is put together as a text, which `Url.setPath`
reads again. -/
def endpoint (c : Client) (path : String) : Url :=
  c.base.setPath (withoutTrailingSlashes c.base.path.chars ++ '/' :: path.toList)

end Client

end HttpStub.Admin
