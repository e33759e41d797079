import HttpStub.Base64
import HttpStub.Data
import HttpStub.Delay
import HttpStub.Error

/-!
# Stub responses

What a stub answers: a status, headers, one body, and how the answer is delayed, spoilt or worked
over. Bodies of four kinds can be set side by side, but only one is served: a literal body comes
before a binary one, that before a file and that before a JSON body. An empty binary body does not
count.
-/

namespace HttpStub

/-- A connection that breaks in place of an answer. -/
inductive NetworkFault where
  | emptyResponse
  | malformedResponseChunk
  | randomDataThenClose
  | connectionResetByPeer
deriving DecidableEq

/-- The name that `StubResponse.members` writes for a fault. -/
def NetworkFault.tag : NetworkFault → String
  | .emptyResponse => "EMPTY_RESPONSE"
  | .malformedResponseChunk => "MALFORMED_RESPONSE_CHUNK"
  | .randomDataThenClose => "RANDOM_DATA_THEN_CLOSE"
  | .connectionResetByPeer => "CONNECTION_RESET_BY_PEER"

/-- What a stub answers. Of the four bodies `StubResponse.body` tells which is served. -/
structure StubResponse where
  status : UInt16
  literalBody : Option String
  binaryBody : Option (List UInt8)
  bodyFile : Option String
  jsonBody : Option Json.Value
  headers : Dict String
  delay : Option Delay
  dribble : Option Dribble
  fault : Option NetworkFault
  transformers : List String
  transformerParameters : Dict String
deriving DecidableEq

namespace StubResponse

/-- Success without headers and body. -/
def ok : StubResponse where
  status := 200
  literalBody := none
  binaryBody := none
  bodyFile := none
  jsonBody := none
  headers := .empty
  delay := none
  dribble := none
  fault := none
  transformers := []
  transformerParameters := .empty

/-- The body that is served. -/
inductive Body where
  | none
  | literal (text : String)
  | binary (bytes : List UInt8)
  | file (name : String)
  | json (value : Json.Value)
deriving DecidableEq

/-- The first of the bodies that have been set, in the order of their kinds. -/
def body (r : StubResponse) : Body :=
  match r.literalBody, r.binaryBody, r.bodyFile, r.jsonBody with
  | some text, _, _, _ => .literal text
  -- An empty binary body is as good as none.
  | .none, some (b :: bs), _, _ => .binary (b :: bs)
  | .none, _, some name, _ => .file name
  | .none, _, .none, some value => .json value
  | .none, _, .none, .none => .none

/-- One thing that can be set. -/
inductive Step where
  | status (status : UInt16)
  /-- One header, in the place of one of the same name. -/
  | header (name value : String)
  /-- All headers at once, in the place of those before. -/
  | headers (pairs : List (String × String))
  /-- A body that is served as it is. -/
  | literalBody (text : String)
  /-- A body of bytes. -/
  | binaryBody (bytes : List UInt8)
  /-- A body from a file of the server. -/
  | bodyFile (name : String)
  /-- A body that is a JSON value, see `jsonDataStep`. -/
  | jsonBody (value : Json.Value)
  /-- How long the answer is held back. -/
  | delay (delay : Delay)
  /-- Sends the body piece by piece. -/
  | dribble (dribble : Dribble)
  /-- Breaks the connection in place of an answer. -/
  | fault (fault : NetworkFault)
  /-- All transformers at once, in the place of those before. -/
  | transformers (names : List String)
  /-- One parameter of the transformers. -/
  | transformerParameter (name value : String)
  /-- All parameters at once, in the place of those before. -/
  | transformerParameters (pairs : List (String × String))
deriving DecidableEq

/-- Sets one thing, in the place of what was set before. -/
def apply (r : StubResponse) : Step → StubResponse
  | .status status => { r with status := status }
  -- Here one name is set, and by `headers` all of them.
  | .header name value => { r with headers := r.headers.insert name value }
  | .headers pairs => { r with headers := .ofList pairs }
  | .literalBody text => { r with literalBody := some text }
  | .binaryBody bytes => { r with binaryBody := some bytes }
  | .bodyFile name => { r with bodyFile := some name }
  | .jsonBody value => { r with jsonBody := some value }
  | .delay delay => { r with delay := some delay }
  | .dribble dribble => { r with dribble := some dribble }
  | .fault fault => { r with fault := some fault }
  | .transformers names => { r with transformers := names }
  | .transformerParameter name value =>
    { r with transformerParameters := r.transformerParameters.insert name value }
  | .transformerParameters pairs => { r with transformerParameters := .ofList pairs }

/-- Sets several things by `apply`, one after the other. -/
def applyAll (r : StubResponse) (steps : List Step) : StubResponse :=
  steps.foldl apply r

/-- The step that sets data as JSON body. `Data.value?` has to succeed. -/
def jsonDataStep (data : Data) : Except Error Step :=
  match data.value? with
  | .ok value => .ok (.jsonBody value)
  | .error failure => .error (.unserializable failure.message)

/-- The member that carries the body, under a key for its kind. -/
def Body.member : Body → List (String × Json)
  | .none => []
  | .literal text => [("body", .string text)]
  -- Bytes are no text, so they are written in letters of base 64.
  | .binary bytes => [("base64Body", .string (String.ofList (Base64.encode bytes)))]
  | .file name => [("bodyFileName", .string name)]
  | .json value => [("jsonBody", value.json)]

/-- The members of a response in their order: what has not been set is left out. -/
def members (r : StubResponse) : List (String × Json) :=
  ("status", .nat r.status.toNat) ::
    -- Bodies that `body` does not choose are not written at all.
    (r.body.member ++
      Json.dictMember "headers" .string r.headers ++
      Json.member? "delayDistribution" Delay.toJson r.delay ++
      Json.member? "chunkedDribbleDelay" Dribble.toJson r.dribble ++
      Json.member? "fault" (fun fault => .string fault.tag) r.fault ++
      Json.listMember "transformers" .string r.transformers ++
      Json.dictMember "transformerParameters" .string r.transformerParameters)

/-- A response as a document. -/
def toJson (r : StubResponse) : Json :=
  .object r.members

/-- Sameness of optional parts, by the sameness of what is there. -/
def sameOption {α : Type} (same : α → α → Bool) : Option α → Option α → Bool
  | some a, some b => same a b
  | none, none => true
  | _, _ => false

/-- Sameness of all that has been set, hidden bodies included, where doubles are compared as numbers
by `Json.same`. -/
def same (a b : StubResponse) : Bool :=
  a.status == b.status && a.literalBody == b.literalBody && a.binaryBody == b.binaryBody &&
    a.bodyFile == b.bodyFile &&
    sameOption (fun v w : Json.Value => v.json.same w.json) a.jsonBody b.jsonBody &&
    a.headers == b.headers && sameOption Delay.same a.delay b.delay && a.dribble == b.dribble &&
    a.fault == b.fault && a.transformers == b.transformers &&
    a.transformerParameters == b.transformerParameters

end StubResponse

end HttpStub
