import HttpStub.Url.Host
import HttpStub.Url.Path

/-!
# URLs

A URL in its parts, each in encoded form, and its text. Of URLs without host there are two kinds:
with a path of segments, and with a plain path.
-/

namespace HttpStub

/-- A URL that stands on its own, as `Url.parse` reads it and `Url.setPath` changes it. -/
structure Url where
  /-- The scheme, which decides how the rest is read. -/
  scheme : Url.Scheme
  /-- The user name, empty if none is given. -/
  username : List Char
  /-- The password, empty if none is given. -/
  password : List Char
  /-- The host, if the URL has an authority. -/
  host : Option Url.Host
  /-- The port, if it is not the usual one. -/
  port : Option UInt16
  /-- The path, of the kind that goes with the host. -/
  path : Url.Path
  /-- The query without its mark. -/
  query : Option (List Char)
  /-- The fragment without its mark. -/
  fragment : Option (List Char)
deriving DecidableEq

namespace Url

/-- User name and password with their marks, if there are any. -/
def userinfoChars (u : Url) : List Char :=
  let password := if u.password = [] then [] else ':' :: u.password
  if u.username = [] ∧ u.password = [] then [] else u.username ++ password ++ ['@']

/-- The `port` behind its colon. -/
def portChars (u : Url) : List Char :=
  match u.port with
  | some port => ':' :: Nat.toDigits 10 port.toNat
  | none => []

/-- What stands between scheme and path. Two slashes at the front of a path are kept from being
taken for those of a host. -/
def authorityChars (u : Url) : List Char :=
  match u.host with
  | some host => ['/', '/'] ++ u.userinfoChars ++ host.chars ++ u.portChars
  | none =>
    match u.path with
    -- An empty segment in front is the second of two slashes.
    | .segments ([] :: _ :: _) => ['/', '.']
    | _ => []

/-- The `query` behind its mark. -/
def queryChars (u : Url) : List Char :=
  match u.query with
  | some query => '?' :: query
  | none => []

/-- The `fragment` behind its mark. -/
def fragmentChars (u : Url) : List Char :=
  match u.fragment with
  | some fragment => '#' :: fragment
  | none => []

/-- What a request to the URL names: path and query, without the host and the `fragment`. -/
def target (u : Url) : String :=
  String.ofList (u.path.chars ++ u.queryChars)

/-- The text of a URL, of the texts of its parts in turn. -/
def text (u : Url) : String :=
  String.ofList
    (u.scheme.name.toList ++ ':' :: u.authorityChars ++ u.path.chars ++ u.queryChars ++
      u.fragmentChars)

/-- The URL with another path, normalised by `Path.ofText`. Marks of a query or fragment are part of
the path here. -/
def setPath (u : Url) (path : List Char) : Url :=
  match u.path with
  -- A path of segments stays one, and is encoded and walked along as a whole.
  | .segments _ => { u with path := .ofText u.scheme path }
  | .plain _ =>
    match path with
    -- A slash in front would turn the plain path into one of segments.
    | '/' :: rest =>
      { u with path := .plain (['%', '2', 'F'] ++ Percent.encode Percent.controls (seen rest)) }
    | path => { u with path := .plainOfText (seen path) }

end Url

end HttpStub
