import HttpStub.Request.Basic
import HttpStub.Response.Basic
import HttpStub.Rule.Identity
import HttpStub.Webhook

/-!
# Stub rules

A rule joins a request pattern and a response under an identity of its own, which no change to the
rule touches. It may have a priority, take part in a scenario and fire webhooks.
-/

namespace HttpStub

/-- A request pattern, the response to it, and what goes with them. Begun by `StubRule.of` and
changed by `StubRule.apply`. -/
structure StubRule where
  /-- What tells the rule from all others, see `sameRule`. -/
  id : Uuid
  /-- The requests that the rule answers. -/
  request : RequestPattern
  /-- The answer; its own delay is part of it. -/
  response : StubResponse
  /-- The delay in its old place, beside the members of the response; never below a millisecond. -/
  fixedDelay : Option Duration
  /-- Of several rules for a request the one with the smallest number counts. -/
  priority : Option Int64
  /-- The scenario that the rule takes part in. -/
  scenario : Option String
  /-- The state in which the rule answers. -/
  requiredState : Option String
  /-- The state after the rule has answered. -/
  newState : Option String
  /-- What is fired after the answer, one `Webhook` after the other. -/
  postServeActions : List Webhook
deriving DecidableEq

namespace StubRule

/-- The state every scenario starts in. -/
def startedState : String := "Started"

/-- A rule for requests of this method to such a URL, which answers `StubResponse.ok`. -/
def of (id : Uuid) (method : String) (url : UrlPattern) : StubRule where
  id := id
  request := .of method url
  response := .ok
  fixedDelay := none
  priority := none
  scenario := none
  requiredState := none
  newState := none
  postServeActions := []

/-- The methods with a shorthand. -/
inductive Verb where
  | post
  | get
  | put
  | delete
  | patch
deriving DecidableEq

/-- The method of a shorthand. -/
def Verb.method : Verb → String
  | .post => "POST"
  | .get => "GET"
  | .put => "PUT"
  | .delete => "DELETE"
  | .patch => "PATCH"

/-- What a rule sets of its request. Method and URL are not among it: they stay as in `of`. -/
inductive RequestPart where
  | scheme (scheme : String)
  | host (matcher : Matcher)
  | port (port : UInt16)
  /-- A parameter of the query, by name. -/
  | queryParameter (name : String) (matcher : Matcher)
  /-- A variable of the path template, by name. -/
  | pathParameter (name : String) (matcher : Matcher)
  /-- A parameter of a form in the body, by name. -/
  | formParameter (name : String) (matcher : Matcher)
  /-- A header, by name. -/
  | header (name : String) (matcher : Matcher)
  /-- A cookie, by name. -/
  | cookie (name : String) (matcher : Matcher)
  /-- One more condition on the body. -/
  | bodyPattern (matcher : Matcher)
  /-- One more condition on the parts of the body. -/
  | multipartPattern (pattern : MultipartPattern)
  /-- User name and password of basic authentication. -/
  | basicAuth (username password : String)
  /-- A token behind the word of `AuthScheme.bearer`. -/
  | bearerToken (token : Matcher)
  /-- A token behind the word of `AuthScheme.token`. -/
  | authToken (token : Matcher)
  /-- Credentials behind the word of `AuthScheme.digest`. -/
  | digestAuth (credentials : Matcher)
deriving DecidableEq

/-- The step of the request pattern that a part is handed on to, with the values it was given. -/
def RequestPart.step : RequestPart → RequestPattern.Step
  | .scheme s => .scheme s
  | .host matcher => .host matcher
  | .port n => .port n
  | .queryParameter name matcher => .queryParameter name matcher
  | .pathParameter name matcher => .pathParameter name matcher
  | .formParameter name matcher => .formParameter name matcher
  | .header name matcher => .header name matcher
  | .cookie name matcher => .cookie name matcher
  | .bodyPattern matcher => .bodyPattern matcher
  | .multipartPattern pattern => .multipartPattern pattern
  | .basicAuth username password => .basicAuth username password
  -- The three kinds of credentials differ in nothing but the scheme.
  | .bearerToken token => .auth .bearer token
  | .authToken token => .auth .token token
  | .digestAuth credentials => .auth .digest credentials

/-- A body that is set together with headers and status. -/
inductive ReplyBody where
  /-- A literal body. -/
  | text (text : String)
  /-- A body of bytes. -/
  | binary (bytes : List UInt8)
  /-- A body from a file of the server, by name. -/
  | file (name : String)
  /-- A body that is a JSON value. -/
  | json (value : Json.Value)
deriving DecidableEq

/-- The step of the response that sets the body. -/
def ReplyBody.step : ReplyBody → StubResponse.Step
  | .text s => .literalBody s
  | .binary bytes => .binaryBody bytes
  | .file name => .bodyFile name
  | .json value => .jsonBody value

/-- One change to a rule. -/
inductive Step where
  /-- A part of the request, by the step of the pattern that `RequestPart.step` gives. -/
  | request (part : RequestPart)
  /-- A whole response in the place of the one before. -/
  | respond (response : StubResponse)
  /-- One body by `ReplyBody.step`, all headers and the status; other bodies stay where they are. -/
  | reply (body : ReplyBody) (headers : List (String × String)) (status : UInt16)
  /-- The delay in its old place, which `responseJson` writes beside the response. -/
  | fixedDelay (delay : Duration)
  /-- The priority among rules for the same request. -/
  | priority (priority : Int64)
  | scenario (name : String)
  /-- The state of the scenario in which the rule answers. -/
  | requiredState (state : String)
  /-- The state of the scenario after that. -/
  | newState (state : String)
  /-- A webhook, put under the name of an extension by `Webhook.Step.name`. -/
  | postServeAction (extension : String) (webhook : Webhook)
deriving DecidableEq

/-- Makes one change: to the request by `RequestPattern.apply`, to the response by
`StubResponse.apply`, and to all else by itself. -/
def apply (r : StubRule) : Step → StubRule
  | .request part => { r with request := r.request.apply part.step }
  | .respond response => { r with response := response }
  | .reply body headers status =>
    -- The headers that were set before are dropped, even if none are given now.
    { r with response := r.response.applyAll [body.step, .headers headers, .status status] }
  -- Less than a millisecond takes back the delay that was set before.
  | .fixedDelay delay => { r with fixedDelay := if 0 < delay.wholeMillis then some delay else none }
  | .priority priority => { r with priority := some priority }
  | .scenario name => { r with scenario := some name }
  | .requiredState state => { r with requiredState := some state }
  | .newState state => { r with newState := some state }
  -- The name replaces the one that the webhook had before.
  | .postServeAction extension webhook =>
    { r with postServeActions := r.postServeActions ++ [webhook.apply (.name extension)] }

/-- Makes several changes by `apply`, one after the other. -/
def applyAll (r : StubRule) (steps : List Step) : StubRule :=
  steps.foldl apply r

/-- `applyAll` makes the first change before the others. -/
theorem applyAll_cons (r : StubRule) (step : Step) (steps : List Step) :
    r.applyAll (step :: steps) = (r.apply step).applyAll steps :=
  rfl

/-- The members of `StubResponse.members`, and behind them the delay in its old place. -/
def responseJson (r : StubRule) : Json :=
  .object (r.response.members ++
    Json.member? "fixedDelayMilliseconds" (fun delay => .nat delay.millis.toNat) r.fixedDelay)

/-- A rule as a document; its identity stands under two keys. -/
def toJson (r : StubRule) : Json :=
  .object
    (("uuid", .string r.id.text) :: ("id", .string r.id.text) ::
      (Json.member? "priority" (fun priority => .int priority.toInt) r.priority ++
        Json.member? "scenarioName" .string r.scenario ++
        Json.member? "requiredScenarioState" .string r.requiredState ++
        Json.member? "newScenarioState" .string r.newState ++
        -- Everything else may be missing, these two never are.
        [("request", r.request.toJson), ("response", r.responseJson)] ++
        Json.listMember "postServeActions" Webhook.toJson r.postServeActions))

/-- The text of `toJson`. -/
def text (r : StubRule) : String :=
  r.toJson.text

/-- Two rules are the same rule if their identities are, whatever else they say. -/
def sameRule (a b : StubRule) : Bool :=
  a.id = b.id

end StubRule

end HttpStub
