import HttpStub.Url.Basic

/-!
# Reading URLs

A text is read from left to right: scheme, user name and password, host, port, path, query,
fragment. Controls and spaces around it, and tabs and line breaks inside, are passed over. Every URL
has to stand on its own, so a text without scheme is refused.
-/

namespace HttpStub.Url

/-- Controls and spaces may stand around a URL; `trim` takes them off. -/
def isBlank (c : Char) : Bool :=
  c.toNat ≤ 0x20

/-- The text of a URL, without what stands around it. -/
def trim (text : List Char) : List Char :=
  ((text.dropWhile isBlank).reverse.dropWhile isBlank).reverse

/-- The text before the first character of a kind, and the text from there on, that character
included. -/
def cut (isEnd : Char → Bool) (cs : List Char) : List Char × List Char :=
  cs.span fun c => !isEnd c

/-- Behind these characters the authority of a URL is over: those of `Scheme.isSeparator` and two
marks. -/
def endsAuthority (scheme : Scheme) (c : Char) : Bool :=
  scheme.isSeparator c || c = '?' || c = '#'

/-- Path, query and fragment of a text, as `Tail.ofText` takes them apart. -/
structure Tail where
  /-- The text of the path, still to be walked along. -/
  path : List Char
  /-- The query in encoded form, without its mark. -/
  query : Option (List Char)
  /-- The fragment in encoded form, without its mark. -/
  fragment : Option (List Char)

/-- Takes the text behind the authority apart. Query and fragment are encoded here, the path by
`Path.ofText`. -/
def Tail.ofText (scheme : Scheme) (cs : List Char) : Tail :=
  let (before, fragment) := cut (· = '#') cs
  -- A question mark behind the number sign belongs to the fragment.
  let (path, query) := cut (· = '?') before
  let querySet := if scheme.isSpecial then Percent.specialQuery else Percent.query
  let encoded (set : Percent.CharSet) : List Char → Option (List Char)
    | [] => none
    | _ :: text => some (Percent.encode set (seen text))
  ⟨path, encoded querySet query, encoded Percent.fragment fragment⟩

/-- The URL of a scheme without host; how its path is kept is for the caller to say. -/
def withoutHost (scheme : Scheme) (path : List Char → Path) (cs : List Char) : Url :=
  let tail := Tail.ofText scheme cs
  {
    scheme
    username := []
    password := []
    host := none
    port := none
    path := path tail.path
    query := tail.query
    fragment := tail.fragment
  }

/-- User name and password before the last at-sign, if there is one, and what follows. -/
def splitUserinfo (authority : List Char) : Option (List Char) × List Char :=
  match cut (· = '@') authority.reverse with
  -- The search from behind finds the last at-sign; those before it are part of the user data.
  | (_, []) => (none, authority)
  | (host, _ :: userinfo) => (some userinfo.reverse, host.reverse)

/-- User name and password, with a colon between them, encoded by `Percent.userinfo`. -/
def credentials (userinfo : List Char) : List Char × List Char :=
  let (username, password) := cut (· = ':') userinfo
  (Percent.encode Percent.userinfo username, Percent.encode Percent.userinfo (password.drop 1))

/-- The host up to a colon outside of brackets, and the text from that colon on, which `readPort`
reads. -/
def splitPort : Bool → List Char → List Char × List Char
  | _, [] => ([], [])
  | isInside, c :: cs =>
    if c = ':' ∧ ¬ isInside then ([], c :: cs)
    else
      -- Colons inside brackets part the pieces of an address.
      let isInside := if c = '[' then true else if c = ']' then false else isInside
      let (host, rest) := splitPort isInside cs
      (c :: host, rest)

/-- The port behind a colon, and the text behind the port. The port of `Scheme.usualPort?` is not
kept. -/
def readPort (scheme : Scheme) (cs : List Char) :
    Except Fault (Option UInt16 × List Char) :=
  let (digits, rest) := cs.span Char.isDigit
  -- The authority has been cut before any slash that ends it, so only a backslash may follow.
  let isOver : Bool := match rest with
    | [] => true
    | c :: _ => c = '\\'
  match number? 10 digits with
  | some n =>
    if n < UInt16.size ∧ isOver then
      let port := UInt16.ofNat n
      -- A colon with nothing behind it gives no port.
      .ok (if digits = [] ∨ scheme.usualPort? = some port then none else some port, rest)
    else .error .invalidPort
  | none => .error .invalidPort

/-- Reads a URL from its authority on: `splitUserinfo`, `splitPort`, `Host.ofText`, `readPort` and
`Tail.ofText` in turn. -/
def readAuthority (scheme : Scheme) (cs : List Char) : Except Fault Url := do
  let (authority, rest) := cut (endsAuthority scheme) cs
  let (userinfo, location) := splitUserinfo authority
  -- An at-sign with nothing on either side is an open host only at the end of the text.
  if userinfo = some [] ∧ location = [] ∧ rest ≠ [] then .error .emptyHost
  let (username, password) := credentials (userinfo.getD [])
  let (hostText, portText) := splitPort false location
  if hostText = [] ∧ scheme.isSpecial then .error .emptyHost
  let host ← Host.ofText scheme hostText
  if host = .empty ∧ portText ≠ [] then .error .emptyHost
  let (port, unread) ← match portText with
    | [] => pure (none, [])
    | _ :: cs => readPort scheme cs
  if host = .empty ∧ (username ≠ [] ∨ password ≠ []) then .error .emptyHost
  let tail := Tail.ofText scheme (unread ++ rest)
  return {
    scheme, username, password, port
    host := some host
    path := .ofText scheme tail.path
    query := tail.query
    fragment := tail.fragment
  }

/-- The host of a local URL, by `Host.ofText`; the machine itself goes without saying. -/
def localHost (scheme : Scheme) (text : List Char) : Except Fault Host := do
  if text = [] then return .empty
  let host ← Host.ofText scheme text
  return if host = .name "localhost".toList then .empty else host

/-- The URL of a local file, which has no `userinfoChars` and no port. -/
def fileUrl (scheme : Scheme) (host : Host) (path : List Segment) (tail : Tail) : Url :=
  {
    scheme
    username := []
    password := []
    host := some host
    port := none
    path := .segments path
    query := tail.query
    fragment := tail.fragment
  }

/-- The `fileUrl` of a path that begins at once. -/
def fileWithoutHost (scheme : Scheme) (cs : List Char) : Url :=
  let tail := Tail.ofText scheme cs
  fileUrl scheme .empty (Walk.along scheme tail.path).segments tail

/-- Reads the URL of a local file from the host on. -/
def readFileHost (scheme : Scheme) (cs : List Char) : Except Fault Url := do
  let (front, rest) := cut (endsAuthority scheme) cs
  -- A drive in the place of the host begins the path.
  if (Segment.drive? (seen front)).isSome then return fileWithoutHost scheme cs
  let host ← localHost scheme (seen front)
  let tail := Tail.ofText scheme rest
  -- Behind an open host the first slash makes an empty segment, so no drive stands in front.
  let path := if host = .empty then tail.path else Path.withoutRoot scheme tail.path
  let walk := Walk.along scheme path
  -- A drive is always one of the machine itself.
  return fileUrl scheme (if walk.onDrive then .empty else host) walk.segments tail

/-- Takes a slash that is seen off the front, with `takeSeen?`. -/
def takeSlash? (scheme : Scheme) (cs : List Char) : Option (List Char) := do
  let (c, rest) ← takeSeen? cs
  if scheme.isSeparator c then some rest else none

/-- Reads the URL of a local file behind its scheme: two slashes in front ask for `readFileHost`. -/
def readFile (scheme : Scheme) (cs : List Char) : Except Fault Url :=
  match takeSlash? scheme cs with
  | none => .ok (fileWithoutHost scheme cs)
  | some behind =>
    match takeSlash? scheme behind with
    | none => .ok (fileWithoutHost scheme behind)
    | some rest => readFileHost scheme rest

/-- Reads a URL behind its scheme, by `readFile`, `readAuthority` or `withoutHost`. The path of a
local file may depend on characters that are not seen; no other part of a URL does. -/
def readBehind (scheme : Scheme) (cs : List Char) : Except Fault Url :=
  if scheme.isFile then readFile scheme cs
  -- Any number of slashes may stand in front of the authority here.
  else if scheme.isSpecial then readAuthority scheme ((seen cs).dropWhile scheme.isSeparator)
  else
    match seen cs with
    | '/' :: '/' :: rest => readAuthority scheme rest
    | '/' :: rest => .ok (withoutHost scheme (.ofText scheme) ('/' :: rest))
    | cs => .ok (withoutHost scheme Path.plainOfText cs)

/-- Reads a URL: `Scheme.take?` for the front of the text, and `readBehind` for the rest. -/
def parse (text : String) : Except Fault Url :=
  match Scheme.take? (trim text.toList) with
  | none => .error .relative
  | some (scheme, rest) => readBehind scheme rest

end HttpStub.Url
