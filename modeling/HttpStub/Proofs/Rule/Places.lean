import HttpStub.Proofs.Json.Places
import HttpStub.Proofs.Rule.Answer

/-!
# Where a rule tells its response

The response of a rule stands under one key of its document, and each of its parts at a place of its
own below that key. No key is repeated on the way, so the value that is posted has the same places.
-/

namespace HttpStub.StubRule

/-- What stands under the key of the response in `toJson` stands there in the value as well. -/
theorem tells_response (r : StubRule) (path : List String) :
    r.toJson.Tells ("response" :: path) (r.responseJson.find? path) := by
  obtain ⟨members, hmembers⟩ : ∃ members, r.toJson = .object members := ⟨_, rfl⟩
  obtain ⟨sorted, hsorted⟩ : ∃ sorted, r.toJson.toValue.json = .object sorted := ⟨_, rfl⟩
  have hresponse : List.lookup "response" members = some r.responseJson := by
    obtain rfl := Json.object.inj hmembers
    simp [Entries.lookup_cons, List.lookup_append]
  -- In the value stands the canonical form of the response, which has the same places.
  constructor
  · rw [hmembers, Json.find?_object, hresponse]
    rfl
  · rw [hsorted, Json.find?_object, lookup_value hmembers hsorted, hresponse]
    exact Json.find?_canonical r.not_repeatsKey_responseJson path

/-- A part of the response is told as it stands among the `responseMembers`. -/
theorem tells_member (r : StubRule) {key : String} {found : Option Json}
    (h : List.lookup key r.responseMembers = found) (path : List String) :
    r.toJson.Tells ("response" :: key :: path) (found.bind fun j => j.find? path) := by
  -- The path leads through the members of the response.
  have htells := r.tells_response (key :: path)
  rwa [responseJson, ← responseMembers, Json.find?_object, h] at htells

/-- `status` of the response is told, whatever it is. -/
theorem tells_status (r : StubRule) :
    r.toJson.Tells ["response", "status"] (some (.nat r.response.status.toNat)) :=
  r.tells_member r.shows_responseMembers.status []

/-- Each header is told by its name under `headers`, and none that is not there. -/
theorem tells_header (r : StubRule) (name : String) :
    r.toJson.Tells ["response", "headers", name]
      ((r.response.headers.get? name).map Json.string) := by
  have htells := r.tells_member r.shows_responseMembers.headers [name]
  cases hempty : r.response.headers.isEmpty with
  | false =>
    -- The headers are a dictionary, which is written in the order of its names.
    have hname : (Json.ofDict .string r.response.headers).find? [name] =
        (r.response.headers.get? name).map Json.string := by
      rw [Json.ofDict, Json.find?_object, Entries.lookup_map]
      simp [Dict.get?]
    rw [hempty] at htells
    simpa [hname] using htells
  | true =>
    -- Without any header there is no place for one either.
    have hnone : r.response.headers.get? name = none := by
      rw [Dict.get?, List.isEmpty_iff.1 hempty]
      rfl
    rw [hempty] at htells
    simpa [hnone] using htells

/-- Under each key for bodies stands what `Body.member` has there. -/
theorem tells_body (r : StubRule) {key : String} (hkey : key ∈ StubResponse.Body.keys) :
    r.toJson.Tells ["response", key] (List.lookup key r.response.body.member) := by
  simpa using r.tells_member (r.lookup_responseMembers hkey) []

/-- The delay is the only member under `delayDistribution`. -/
theorem lookup_delay (r : StubRule) :
    List.lookup "delayDistribution" r.responseMembers = r.response.delay.map Delay.toJson := by
  have hbody : List.lookup "delayDistribution" r.response.body.member = none :=
    lookup_member_of_notMem_keys r.response.body (by decide)
  simp [responseMembers, StubResponse.members, Entries.lookup_cons, List.lookup_append, hbody]

/-- The fault is the only member under `fault`. -/
theorem lookup_fault (r : StubRule) :
    List.lookup "fault" r.responseMembers =
      r.response.fault.map fun fault => .string fault.tag := by
  have hbody : List.lookup "fault" r.response.body.member = none :=
    lookup_member_of_notMem_keys r.response.body (by decide)
  simp [responseMembers, StubResponse.members, Entries.lookup_cons, List.lookup_append, hbody]

/-- The delay of the response is told under `delayDistribution`, if it has one. -/
theorem tells_delay (r : StubRule) :
    r.toJson.Tells ["response", "delayDistribution"] (r.response.delay.map Delay.toJson) := by
  simpa using r.tells_member r.lookup_delay []

/-- So is its `fault`. -/
theorem tells_fault (r : StubRule) :
    r.toJson.Tells ["response", "fault"] (r.response.fault.map fun fault => .string fault.tag) := by
  simpa using r.tells_member r.lookup_fault []

/-- The delay in its old place, `StubRule.fixedDelay`, stands beside the members of the response. -/
theorem tells_fixedDelay (r : StubRule) :
    r.toJson.Tells ["response", "fixedDelayMilliseconds"]
      (r.fixedDelay.map fun delay => .nat delay.millis.toNat) := by
  simpa using r.tells_member r.shows_responseMembers.fixedDelay []

end HttpStub.StubRule
