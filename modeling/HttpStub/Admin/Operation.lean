import HttpStub.Admin.Request
import HttpStub.Journal.Entry
import HttpStub.Reply
import HttpStub.Rule.Basic

/-!
# Admin operations

What the server can be asked to do. Every operation is one request, and it either takes no notice of
the body of the reply or decodes it. Some operations are about the requests that fit a pattern.
-/

namespace HttpStub.Admin

/-- Something to ask of the server. Only `Operation.call` brings data of the type `ρ`. -/
inductive Operation (ρ : Type) where
  /-- Answers by a rule from now on: posts the document of `StubRule.toJson`. -/
  | stubFor (rule : StubRule)
  /-- Takes back the rule of an identity, which is put into the path as it is. -/
  | deleteStub (id : String)
  /-- Takes back all rules. -/
  | clear
  /-- Brings back the rules that the server began with. -/
  | reset
  /-- Brings all scenarios back to `StubRule.startedState`. -/
  | resetScenarios
  /-- Counts the requests that fit a `RequestPattern`. -/
  | countRequests (criteria : RequestPattern)
  /-- Checks how many requests fit a `RequestPattern`, by the same request as `countRequests`. -/
  | verify (criteria : RequestPattern) (count : Int64)
  /-- Lists all requests received, as a `JournalListing`. -/
  | listRequests
  /-- Gets one request received, as a `ServeEvent`. -/
  | getRequest (id : String)
  /-- Finds the requests that fit a `RequestPattern`, as `FoundRequests`. -/
  | findRequests (criteria : RequestPattern)
  /-- Finds the requests that no rule answered. -/
  | findUnmatched
  /-- Deletes all requests received. -/
  | deleteAllRequests
  /-- Deletes one request received, by its identity. -/
  | deleteRequest (id : String)
  /-- Deletes requests and returns them, as `RemovedEntries`. -/
  | deleteRequests (criteria : RequestPattern)
  /-- Records what another server answers. -/
  | startRecording (target : String)
  /-- Ends the recording. -/
  | stopRecording
  /-- Sends any other `Request`. The caller says how the body of its reply is read. -/
  | call (request : Request) (body : Option Data) (read : String → Except Json.ReadError ρ)

/-- What an operation brings; of the type `ρ` are the data that `Operation.call` reads. -/
inductive Answer (ρ : Type) where
  /-- Nothing but that it is done: the answer where `Operation.decoder?` gives no decoder. -/
  | done
  /-- The number that `Operation.countRequests` asks for. -/
  | count (n : Int64)
  /-- Whether the number is the one that `Operation.verify` expects. -/
  | verdict (holds : Bool)
  /-- The entry that `Operation.getRequest` asks for. -/
  | entry (entry : ServeEvent)
  /-- All entries, for `Operation.listRequests`. -/
  | listing (listing : JournalListing)
  /-- The requests found, with a pattern or unmatched. -/
  | found (requests : FoundRequests)
  /-- The entries that `Operation.deleteRequests` has deleted. -/
  | removed (entries : RemovedEntries)
  /-- The whole reply to `Operation.call`, with its data as the caller read them. -/
  | reply (reply : Reply ρ)
deriving DecidableEq

namespace Operation

variable {ρ : Type}

/-- Takes back a rule, by `Operation.deleteStub` with the text of its identity. -/
def deleteRule (rule : StubRule) : Operation ρ :=
  .deleteStub rule.id.text

/-- The `Request` of an operation: method, path and the status for success. Only a rule that is
posted is answered by `Http.Status.created`. -/
def request : Operation ρ → Request
  | .stubFor _ => (Request.of "POST" "mappings").expecting .created
  -- An identity is part of the path before the path is parsed, slashes and all.
  | .deleteStub id => .of "DELETE" ("mappings/" ++ id)
  | .clear => .of "DELETE" "mappings"
  | .reset => .of "POST" "mappings/reset"
  | .resetScenarios => .of "POST" "scenarios/reset"
  | .countRequests _ => .of "POST" "requests/count"
  | .verify _ _ => .of "POST" "requests/count"
  | .listRequests => .of "GET" "requests"
  | .getRequest id => .of "GET" ("requests/" ++ id)
  | .findRequests _ => .of "POST" "requests/find"
  | .findUnmatched => .of "GET" "requests/unmatched"
  | .deleteAllRequests => .of "DELETE" "requests"
  | .deleteRequest id => .of "DELETE" ("requests/" ++ id)
  | .deleteRequests _ => .of "POST" "requests/remove"
  | .startRecording _ => .of "POST" "recordings/start"
  | .stopRecording => .of "POST" "recordings/stop"
  | .call request _ _ => request

/-- The document that is sent along, if there is one. Rules and patterns always have one, and only
data for `Operation.call` may fail to. -/
def document? : Operation ρ → Option (Except Data.Failure Json.Value)
  | .stubFor rule => some (.ok rule.toJson.toValue)
  | .countRequests criteria => some (.ok criteria.toJson.toValue)
  | .verify criteria _ => some (.ok criteria.toJson.toValue)
  | .findRequests criteria => some (.ok criteria.toJson.toValue)
  | .deleteRequests criteria => some (.ok criteria.toJson.toValue)
  | .startRecording target =>
    some (.ok (Json.object [("targetBaseUrl", .string target)]).toValue)
  | .call _ body _ => body.map Data.value?
  | .deleteStub _ | .clear | .reset | .resetScenarios | .listRequests | .getRequest _
  | .findUnmatched | .deleteAllRequests | .deleteRequest _ | .stopRecording => none

/-- The text of `document?`, which is sent along. -/
def body? (op : Operation ρ) : Except Data.Failure (Option String) :=
  match op.document? with
  | none => .ok none
  | some (.ok value) => .ok (some value.json.text)
  | some (.error failure) => .error failure

/-- How the body of a reply of the expected status is decoded, with the `Codec` of the record it
holds; nothing if no notice is taken of it. -/
def decoder? : Operation ρ → Option (Reply String → Except Json.ReadError (Answer ρ))
  | .countRequests _ => some fun r => (RequestCount.codec.decode r.data).map fun c => .count c.count
  -- The reply is the same as for a count, and the comparison is made here.
  | .verify _ count => some fun r =>
    (RequestCount.codec.decode r.data).map fun c => .verdict (c.count = count)
  | .listRequests => some fun r => (JournalListing.codec.decode r.data).map .listing
  | .getRequest _ => some fun r => (ServeEvent.codec.decode r.data).map .entry
  | .findRequests _ => some fun r => (FoundRequests.codec.decode r.data).map .found
  | .findUnmatched => some fun r => (FoundRequests.codec.decode r.data).map .found
  | .deleteRequests _ => some fun r => (RemovedEntries.codec.decode r.data).map .removed
  | .call _ _ read => some fun r => (read r.data).map fun data => .reply (r.map fun _ => data)
  -- What the server says of these is of no interest, if only the status is right.
  | .stubFor _ | .deleteStub _ | .clear | .reset | .resetScenarios | .deleteAllRequests
  | .deleteRequest _ | .startRecording _ | .stopRecording => none

end Operation

end HttpStub.Admin
