import HttpStub.Journal.Codec

/-!
# Entries of the request journal

What the server tells about the requests it has received. Every part of an entry may be missing and
is then blank, and parts that are not known here are passed over, so that entries of other versions
of the server can be read.
-/

namespace HttpStub

/-- The values logged under a header name: one text, or the texts of a repeated header. Which of the
two, only the document tells. -/
inductive LoggedValue where
  | single (text : String)
  | multiple (texts : List String)
deriving DecidableEq

namespace LoggedValue

/-- The first text, if there is one. -/
def first? : LoggedValue → Option String
  | .single text => some text
  | .multiple texts => texts.head?

/-- The texts of a list of documents, if each of them is a `Json.string`. -/
def texts? : List Json → Option (List String)
  | [] => some []
  | .string s :: js => (texts? js).map (s :: ·)
  -- A single item of another kind makes the whole list no texts.
  | _ :: _ => none

/-- The logged value that a document is: a `single` text is a string, and `multiple` texts
are an array. -/
def ofJson? : Json → Option LoggedValue
  -- The kinds are tried in this order, and no document is of both.
  | .string s => some (.single s)
  | .array js => (texts? js).map .multiple
  | _ => none

/-- The logged value that `ofJson?` finds in a document, or the fault of being neither. -/
def ofJson (j : Json) : Except Json.Mismatch LoggedValue :=
  match ofJson? j with
  | some v => .ok v
  | none => .error (.noVariant "HeaderValue")

/-- Reads a `document` to its end before its shape matters. -/
def read (depth : Nat) : Json.Reader LoggedValue := fun cs => do
  let (j, unread) ← Json.document depth cs
  -- The kinds are told apart only now, so a malformed document is reported as such.
  match ofJson j with
  | .ok v => return (v, unread)
  | .error m => .error (.unsuitable m)

/-- The document of a logged value, which `ofJson` reads back. -/
def toJson : LoggedValue → Json
  | .single text => .string text
  | .multiple texts => Json.strings texts

/-- The codec of `LoggedValue`. -/
def codec : Codec LoggedValue := ⟨toJson, read, ofJson⟩

end LoggedValue

/-- A query or form parameter with all of its values. -/
structure LoggedParameter where
  key : String
  values : List String
deriving DecidableEq

namespace LoggedParameter

/-- A `LoggedParameter` of which nothing is known. -/
def blank : LoggedParameter where
  key := ""
  values := []

/-- The fields of `LoggedParameter` in their order. -/
def fields : List (Field LoggedParameter) :=
  [.of "key" .string (·.key) fun s v => { s with key := v },
   .of "values" (.list .string) (·.values) fun s v => { s with values := v }]

/-- The codec of `LoggedParameter`, under its name in messages. -/
def codec : Codec LoggedParameter :=
  .record "Param" blank fields

end LoggedParameter

/-- A request as it was received. -/
structure LoggedRequest where
  url : String
  absoluteUrl : String
  method : String
  clientIp : String
  headers : Dict LoggedValue
  cookies : Dict String
  browserProxyRequest : Bool
  loggedDate : Int64
  bodyAsBase64 : String
  body : String
  protocol : String
  scheme : String
  loggedDateString : String
  host : String
  port : Int64
  queryParams : Dict LoggedParameter
  formParams : Dict LoggedParameter
deriving DecidableEq

namespace LoggedRequest

/-- A `LoggedRequest` of which nothing is known. -/
def blank : LoggedRequest where
  url := ""
  absoluteUrl := ""
  method := ""
  clientIp := ""
  headers := .empty
  cookies := .empty
  browserProxyRequest := false
  loggedDate := 0
  bodyAsBase64 := ""
  body := ""
  protocol := ""
  scheme := ""
  loggedDateString := ""
  host := ""
  port := 0
  queryParams := .empty
  formParams := .empty

/-- The fields of `LoggedRequest` in their order. -/
def fields : List (Field LoggedRequest) :=
  [.of "url" .string (·.url) fun s v => { s with url := v },
   .of "absoluteUrl" .string (·.absoluteUrl) fun s v => { s with absoluteUrl := v },
   .of "method" .string (·.method) fun s v => { s with method := v },
   .of "clientIp" .string (·.clientIp) fun s v => { s with clientIp := v },
   .of "headers" (.dict LoggedValue.codec) (·.headers) fun s v => { s with headers := v },
   .of "cookies" (.dict .string) (·.cookies) fun s v => { s with cookies := v },
   .of "browserProxyRequest" .bool (·.browserProxyRequest)
      fun s v => { s with browserProxyRequest := v },
   .of "loggedDate" .word (·.loggedDate) fun s v => { s with loggedDate := v },
   .of "bodyAsBase64" .string (·.bodyAsBase64) fun s v => { s with bodyAsBase64 := v },
   .of "body" .string (·.body) fun s v => { s with body := v },
   .of "protocol" .string (·.protocol) fun s v => { s with protocol := v },
   .of "scheme" .string (·.scheme) fun s v => { s with scheme := v },
   .of "loggedDateString" .string (·.loggedDateString) fun s v => { s with loggedDateString := v },
   .of "host" .string (·.host) fun s v => { s with host := v },
   .of "port" .word (·.port) fun s v => { s with port := v },
   .of "queryParams" (.dict LoggedParameter.codec) (·.queryParams)
      fun s v => { s with queryParams := v },
   .of "formParams" (.dict LoggedParameter.codec) (·.formParams)
      fun s v => { s with formParams := v }]

/-- The codec of `LoggedRequest`, under its name in messages. -/
def codec : Codec LoggedRequest :=
  .record "LoggedRequest" blank fields

end LoggedRequest

/-- The response that was chosen for a request. -/
structure ResponseDefinition where
  headers : Dict LoggedValue
  body : String
  status : Int64
  fromConfiguredStub : Bool
deriving DecidableEq

namespace ResponseDefinition

/-- A `ResponseDefinition` of which nothing is known. -/
def blank : ResponseDefinition where
  headers := .empty
  body := ""
  status := 0
  fromConfiguredStub := false

/-- The fields of `ResponseDefinition` in their order. -/
def fields : List (Field ResponseDefinition) :=
  [.of "headers" (.dict LoggedValue.codec) (·.headers) fun s v => { s with headers := v },
   .of "body" .string (·.body) fun s v => { s with body := v },
   .of "status" .word (·.status) fun s v => { s with status := v },
   .of "fromConfiguredStub" .bool (·.fromConfiguredStub)
      fun s v => { s with fromConfiguredStub := v }]

/-- The codec of `ResponseDefinition`, under its name in messages. -/
def codec : Codec ResponseDefinition :=
  .record "ResponseDefinition" blank fields

end ResponseDefinition

/-- The response that was sent. -/
structure LoggedResponse where
  headers : Dict LoggedValue
  bodyAsBase64 : String
  body : String
  status : Int64
deriving DecidableEq

namespace LoggedResponse

/-- A `LoggedResponse` of which nothing is known. -/
def blank : LoggedResponse where
  headers := .empty
  bodyAsBase64 := ""
  body := ""
  status := 0

/-- The fields of `LoggedResponse` in their order. -/
def fields : List (Field LoggedResponse) :=
  [.of "headers" (.dict LoggedValue.codec) (·.headers) fun s v => { s with headers := v },
   .of "bodyAsBase64" .string (·.bodyAsBase64) fun s v => { s with bodyAsBase64 := v },
   .of "body" .string (·.body) fun s v => { s with body := v },
   .of "status" .word (·.status) fun s v => { s with status := v }]

/-- The codec of `LoggedResponse`, under its name in messages. -/
def codec : Codec LoggedResponse :=
  .record "LoggedResponse" blank fields

end LoggedResponse

/-- How long the server took, in milliseconds. -/
structure Timing where
  serveTime : Int64
  totalTime : Int64
  processTime : Int64
  responseSendTime : Int64
  addedDelay : Int64
deriving DecidableEq

namespace Timing

/-- A `Timing` of which nothing is known. -/
def blank : Timing where
  serveTime := 0
  totalTime := 0
  processTime := 0
  responseSendTime := 0
  addedDelay := 0

/-- The fields of `Timing` in their order. -/
def fields : List (Field Timing) :=
  [.of "serveTime" .word (·.serveTime) fun s v => { s with serveTime := v },
   .of "totalTime" .word (·.totalTime) fun s v => { s with totalTime := v },
   .of "processTime" .word (·.processTime) fun s v => { s with processTime := v },
   .of "responseSendTime" .word (·.responseSendTime) fun s v => { s with responseSendTime := v },
   .of "addedDelay" .word (·.addedDelay) fun s v => { s with addedDelay := v }]

/-- The codec of `Timing`, under its name in messages. -/
def codec : Codec Timing :=
  .record "Timing" blank fields

end Timing

/-- The request part of the stub that served a request. -/
structure StubMappingRequest where
  method : String
  url : String
  urlPattern : String
  urlPath : String
  urlPathPattern : String
  urlPathTemplate : String
deriving DecidableEq

namespace StubMappingRequest

/-- A `StubMappingRequest` of which nothing is known. -/
def blank : StubMappingRequest where
  method := ""
  url := ""
  urlPattern := ""
  urlPath := ""
  urlPathPattern := ""
  urlPathTemplate := ""

/-- The fields of `StubMappingRequest` in their order. -/
def fields : List (Field StubMappingRequest) :=
  [.of "method" .string (·.method) fun s v => { s with method := v },
   .of "url" .string (·.url) fun s v => { s with url := v },
   .of "urlPattern" .string (·.urlPattern) fun s v => { s with urlPattern := v },
   .of "urlPath" .string (·.urlPath) fun s v => { s with urlPath := v },
   .of "urlPathPattern" .string (·.urlPathPattern) fun s v => { s with urlPathPattern := v },
   .of "urlPathTemplate" .string (·.urlPathTemplate) fun s v => { s with urlPathTemplate := v }]

/-- The codec of `StubMappingRequest`, under its name in messages. -/
def codec : Codec StubMappingRequest :=
  .record "StubMappingRequest" blank fields

end StubMappingRequest

/-- The stub that served a request, as the server describes it. -/
structure StubMapping where
  id : String
  uuid : String
  name : String
  request : StubMappingRequest
  response : ResponseDefinition
deriving DecidableEq

namespace StubMapping

/-- A `StubMapping` of which nothing is known. -/
def blank : StubMapping where
  id := ""
  uuid := ""
  name := ""
  request := .blank
  response := .blank

/-- The fields of `StubMapping` in their order. -/
def fields : List (Field StubMapping) :=
  [.of "id" .string (·.id) fun s v => { s with id := v },
   .of "uuid" .string (·.uuid) fun s v => { s with uuid := v },
   .of "name" .string (·.name) fun s v => { s with name := v },
   .of "request" StubMappingRequest.codec (·.request) fun s v => { s with request := v },
   .of "response" ResponseDefinition.codec (·.response) fun s v => { s with response := v }]

/-- The codec of `StubMapping`, under its name in messages. -/
def codec : Codec StubMapping :=
  .record "StubMapping" blank fields

end StubMapping

/-- A request and how it was served: the entry that `JournalListing` is made of. -/
structure ServeEvent where
  id : String
  request : LoggedRequest
  responseDefinition : ResponseDefinition
  response : LoggedResponse
  wasMatched : Bool
  timing : Timing
  stubMapping : StubMapping
deriving DecidableEq

namespace ServeEvent

/-- A `ServeEvent` of which nothing is known. -/
def blank : ServeEvent where
  id := ""
  request := .blank
  responseDefinition := .blank
  response := .blank
  wasMatched := false
  timing := .blank
  stubMapping := .blank

/-- The fields of `ServeEvent` in their order. -/
def fields : List (Field ServeEvent) :=
  [.of "id" .string (·.id) fun s v => { s with id := v },
   .of "request" LoggedRequest.codec (·.request) fun s v => { s with request := v },
   .of "responseDefinition" ResponseDefinition.codec (·.responseDefinition)
      fun s v => { s with responseDefinition := v },
   .of "response" LoggedResponse.codec (·.response) fun s v => { s with response := v },
   .of "wasMatched" .bool (·.wasMatched) fun s v => { s with wasMatched := v },
   .of "timing" Timing.codec (·.timing) fun s v => { s with timing := v },
   .of "stubMapping" StubMapping.codec (·.stubMapping) fun s v => { s with stubMapping := v }]

/-- The codec of `ServeEvent`, under its name in messages. -/
def codec : Codec ServeEvent :=
  .record "ServeEvent" blank fields

end ServeEvent

/-- How many entries there are. -/
structure JournalSize where
  total : Int64
deriving DecidableEq

namespace JournalSize

/-- A `JournalSize` of which nothing is known. -/
def blank : JournalSize where
  total := 0

/-- The fields of `JournalSize` in their order. -/
def fields : List (Field JournalSize) :=
  [.of "total" .word (·.total) fun s v => { s with total := v }]

/-- The codec of `JournalSize`, under its name in messages. -/
def codec : Codec JournalSize :=
  .record "Meta" blank fields

end JournalSize

/-- All entries of the journal. -/
structure JournalListing where
  requests : List ServeEvent
  size : JournalSize
  requestJournalDisabled : Bool
deriving DecidableEq

namespace JournalListing

/-- A `JournalListing` of which nothing is known. -/
def blank : JournalListing where
  requests := []
  size := .blank
  requestJournalDisabled := false

/-- The fields of `JournalListing` in their order. -/
def fields : List (Field JournalListing) :=
  [.of "requests" (.list ServeEvent.codec) (·.requests) fun s v => { s with requests := v },
   .of "meta" JournalSize.codec (·.size) fun s v => { s with size := v },
   .of "requestJournalDisabled" .bool (·.requestJournalDisabled)
      fun s v => { s with requestJournalDisabled := v }]

/-- The codec of `JournalListing`, under its name in messages. -/
def codec : Codec JournalListing :=
  .record "GetAllRequestsResponse" blank fields

end JournalListing

/-- The requests that a query found. -/
structure FoundRequests where
  requests : List LoggedRequest
deriving DecidableEq

namespace FoundRequests

/-- A `FoundRequests` of which nothing is known. -/
def blank : FoundRequests where
  requests := []

/-- The fields of `FoundRequests` in their order. -/
def fields : List (Field FoundRequests) :=
  [.of "requests" (.list LoggedRequest.codec) (·.requests) fun s v => { s with requests := v }]

/-- The codec of `FoundRequests`, under its name in messages. -/
def codec : Codec FoundRequests :=
  .record "FindRequestsResponse" blank fields

end FoundRequests

/-- The entries that a query removed. -/
structure RemovedEntries where
  serveEvents : List ServeEvent
deriving DecidableEq

namespace RemovedEntries

/-- A `RemovedEntries` of which nothing is known. -/
def blank : RemovedEntries where
  serveEvents := []

/-- The fields of `RemovedEntries` in their order. -/
def fields : List (Field RemovedEntries) :=
  [.of "serveEvents" (.list ServeEvent.codec) (·.serveEvents)
      fun s v => { s with serveEvents := v }]

/-- The codec of `RemovedEntries`, under its name in messages. -/
def codec : Codec RemovedEntries :=
  .record "DeleteRequestsByCriteriaResponse" blank fields

end RemovedEntries

/-- The number of requests that a query found. -/
structure RequestCount where
  count : Int64
deriving DecidableEq

namespace RequestCount

/-- A `RequestCount` of which nothing is known. -/
def blank : RequestCount where
  count := 0

/-- The fields of `RequestCount` in their order. -/
def fields : List (Field RequestCount) :=
  [.of "count" .word (·.count) fun s v => { s with count := v }]

/-- The codec of `RequestCount`, under its name in messages. -/
def codec : Codec RequestCount :=
  .record "CountRequestsResponse" blank fields

end RequestCount

end HttpStub
