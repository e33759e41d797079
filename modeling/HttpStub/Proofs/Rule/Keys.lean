import HttpStub.Proofs.Json.Members
import HttpStub.Proofs.Matcher.Keys
import HttpStub.Proofs.Response.Wire
import HttpStub.Rule.Basic

/-!
# Repeated keys of rules

A rule is written as objects within objects, and of almost all of them the keys are distinct: they
are fixed ones, some of them left out, or those of a dictionary or a value. So it is a comparison in
one of its matchers that repeats a key, or none.
-/

namespace HttpStub

/-- `Dict.insert` adds no value but the one it puts in. -/
theorem Dict.mem_values_insert {α : Type} {d : Dict α} {key : String} {a b : α}
    (h : b ∈ (d.insert key a).values) : b = a ∨ b ∈ d.values := by
  -- A value belongs to an entry, and an entry was put in or was there.
  obtain ⟨e, he, rfl⟩ := List.mem_map.1 h
  cases Entries.mem_insert he with
  | inl heq => exact .inl (by rw [heq])
  | inr hmem => exact .inr (List.mem_map_of_mem hmem)

/-! ## Parts without matchers -/

/-- `Delay.toJson` repeats no key. -/
theorem Delay.not_repeatsKey (d : Delay) : ¬d.toJson.RepeatsKey := by
  -- A number in floating point is written as a number or as null, without any key.
  have hfloat : ∀ x, ¬(Json.ofFloat x).RepeatsKey := by
    intro x
    unfold Json.ofFloat
    split <;> simp
  cases d <;>
    · rw [toJson, Json.repeatsKey_object_of_nodup (by simp)]
      simp [Json.nat, hfloat]

/-- `Dribble.toJson` repeats no key. -/
theorem Dribble.not_repeatsKey (d : Dribble) : ¬d.toJson.RepeatsKey := by
  rw [toJson, Json.repeatsKey_object_of_nodup (by simp)]
  simp [Json.nat]

namespace Webhook

/-- A `textMember` has its key, or is left out. -/
theorem keysWithin_textMember (key text : String) :
    Json.KeysWithin [key] (textMember key text) := by
  unfold textMember
  split
  · exact List.nil_sublist _
  · exact List.Sublist.refl _

/-- The text in a `textMember` repeats no key. -/
theorem not_membersRepeat_textMember (key text : String) :
    ¬Json.MembersRepeat (textMember key text) := by
  unfold textMember
  -- A text has no keys, and a member that is left out has none either.
  split <;> simp

/-- `Webhook.toJson` repeats no key, neither in itself nor among its parameters. -/
theorem not_repeatsKey (w : Webhook) : ¬w.toJson.RepeatsKey := by
  -- The parameters are optional, so their keys are some of these five, in their order.
  have hkeys := ((((keysWithin_textMember "method" w.method).append
    (keysWithin_textMember "url" w.url)).append
    (keysWithin_textMember "body" w.body)).append
    (Json.keysWithin_dictMember "headers" Json.string w.headers)).append
    (Json.keysWithin_member? "delay" Delay.toJson w.delay)
  have hparameters := Json.repeatsKey_object_of_keysWithin hkeys (by decide)
  rw [toJson, Json.repeatsKey_object_of_nodup (by simp), Json.membersRepeat_cons,
    Json.membersRepeat_cons, hparameters]
  simp [not_membersRepeat_textMember, Delay.not_repeatsKey]

end Webhook

namespace StubResponse

/-- `Body.member`, the one body that is written, has a key of its own, and JSON in it is a value. -/
theorem Body.exists_keysWithin (b : Body) :
    (∃ key ∈ keys, Json.KeysWithin [key] b.member) ∧ ¬Json.MembersRepeat b.member := by
  cases b with
  | none => exact ⟨⟨"body", by decide, List.nil_sublist _⟩, by simp [member]⟩
  | literal text => exact ⟨⟨"body", by decide, List.Sublist.refl _⟩, by simp [member]⟩
  | binary bytes => exact ⟨⟨"base64Body", by decide, List.Sublist.refl _⟩, by simp [member]⟩
  | file name => exact ⟨⟨"bodyFileName", by decide, List.Sublist.refl _⟩, by simp [member]⟩
  | json value =>
    exact ⟨⟨"jsonBody", by decide, List.Sublist.refl _⟩, by simp [member, value.not_repeatsKey]⟩

end StubResponse

/-! ## Requests -/

/-- The matchers of a pattern, for its headers and its bodies. -/
def MultipartPattern.matchers (p : MultipartPattern) : List Matcher :=
  p.headers.values ++ p.bodyPatterns

/-- The matchers of a pattern, those of its part patterns by `MultipartPattern.matchers` included.
-/
def RequestPattern.matchers (r : RequestPattern) : List Matcher :=
  r.host.toList ++ r.headers.values ++ r.queryParameters.values ++ r.pathParameters.values ++
    r.formParameters.values ++ r.cookies.values ++ r.bodyPatterns ++
    r.multipartPatterns.flatMap MultipartPattern.matchers

/-- `MultipartPattern.toJson` repeats a key where one of its matchers repeats a tag. -/
theorem MultipartPattern.repeatsKey_toJson (p : MultipartPattern) :
    p.toJson.RepeatsKey ↔ ∃ m ∈ p.matchers, m.RepeatsTag := by
  -- The two lists of matchers are optional, and the quantifier comes first.
  have hoptional := (Json.keysWithin_dictMember "headers" Matcher.toJson p.headers).append
    (Json.keysWithin_listMember "bodyPatterns" Matcher.toJson p.bodyPatterns)
  have hkeys : Json.KeysWithin ("matchingType" :: _) _ := hoptional.cons (.string p.quantifier.tag)
  rw [toJson, Json.repeatsKey_object_of_keysWithin hkeys (by decide)]
  simp [matchers, Matcher.repeatsKey_toJson, or_and_right, exists_or]

/-- The `matchers` of several patterns repeat a tag where one of the patterns repeats a key. -/
theorem MultipartPattern.exists_mem_flatMap_matchers (patterns : List MultipartPattern) :
    (∃ m ∈ patterns.flatMap matchers, m.RepeatsTag) ↔ ∃ p ∈ patterns, p.toJson.RepeatsKey := by
  constructor
  · rintro ⟨m, hm, h⟩
    obtain ⟨p, hp, hmem⟩ := List.mem_flatMap.1 hm
    exact ⟨p, hp, p.repeatsKey_toJson.2 ⟨m, hmem, h⟩⟩
  · rintro ⟨p, hp, h⟩
    obtain ⟨m, hmem, hrepeats⟩ := p.repeatsKey_toJson.1 h
    exact ⟨m, List.mem_flatMap.2 ⟨p, hp, hmem⟩, hrepeats⟩

/-- `credentialsJson` repeats no key. -/
theorem RequestPattern.not_repeatsKey_credentialsJson (c : Credentials) :
    ¬(credentialsJson c).RepeatsKey := by
  rw [credentialsJson, Json.repeatsKey_object_of_nodup (by simp)]
  simp

/-- `RequestPattern.toJson` repeats a key where one of its matchers repeats a tag. The strategy of
the URL is a key too, and none of the fixed ones. -/
theorem RequestPattern.repeatsKey_toJson (r : RequestPattern) :
    r.toJson.RepeatsKey ↔ ∃ m ∈ r.matchers, m.RepeatsTag := by
  have hoptional := ((((((((((Json.keysWithin_member? "scheme" Json.string r.scheme).append
    (Json.keysWithin_member? "host" Matcher.toJson r.host)).append
    (Json.keysWithin_member? "port" (fun port : UInt16 => .nat port.toNat) r.port)).append
    (Json.keysWithin_dictMember "headers" Matcher.toJson r.headers)).append
    (Json.keysWithin_dictMember "queryParameters" Matcher.toJson r.queryParameters)).append
    (Json.keysWithin_dictMember "pathParameters" Matcher.toJson r.pathParameters)).append
    (Json.keysWithin_dictMember "formParameters" Matcher.toJson r.formParameters)).append
    (Json.keysWithin_dictMember "cookies" Matcher.toJson r.cookies)).append
    (Json.keysWithin_listMember "bodyPatterns" Matcher.toJson r.bodyPatterns)).append
    (Json.keysWithin_listMember "multipartPatterns" MultipartPattern.toJson
      r.multipartPatterns)).append
    (Json.keysWithin_member? "basicAuthCredentials" credentialsJson r.credentials)
  have hkeys : Json.KeysWithin ("method" :: r.url.strategy.tag :: _) _ :=
    (hoptional.cons (.string r.url.value)).cons (.string r.method)
  -- The strategy is not known, so the keys are distinct for each of them.
  have hnodup : ∀ strategy : UrlStrategy, ("method" :: strategy.tag :: (["scheme"] ++ ["host"] ++
      ["port"] ++ ["headers"] ++ ["queryParameters"] ++ ["pathParameters"] ++ ["formParameters"] ++
      ["cookies"] ++ ["bodyPatterns"] ++ ["multipartPatterns"] ++
      ["basicAuthCredentials"])).Nodup := by
    intro strategy
    cases strategy <;> decide
  rw [toJson, Json.repeatsKey_object_of_keysWithin hkeys (hnodup r.url.strategy)]
  simp only [matchers, List.mem_append, or_and_right, exists_or,
    MultipartPattern.exists_mem_flatMap_matchers]
  simp [Matcher.repeatsKey_toJson, Json.nat, not_repeatsKey_credentialsJson, or_assoc]

/-! ## Rules -/

namespace StubRule

/-- `responseJson` repeats no key, though the delay in its old place is among its members. -/
theorem not_repeatsKey_responseJson (r : StubRule) : ¬r.responseJson.RepeatsKey := by
  obtain ⟨⟨key, hkey, hbody⟩, hvalue⟩ := r.response.body.exists_keysWithin
  have hoptional := ((((((hbody.append
    (Json.keysWithin_dictMember "headers" Json.string r.response.headers)).append
    (Json.keysWithin_member? "delayDistribution" Delay.toJson r.response.delay)).append
    (Json.keysWithin_member? "chunkedDribbleDelay" Dribble.toJson r.response.dribble)).append
    (Json.keysWithin_member? "fault" (fun fault : NetworkFault => .string fault.tag)
      r.response.fault)).append
    (Json.keysWithin_listMember "transformers" Json.string r.response.transformers)).append
    (Json.keysWithin_dictMember "transformerParameters" Json.string
      r.response.transformerParameters))
  -- The delay in its old place stands behind the response, under a key that no response has.
  have hresponse : Json.KeysWithin ("status" :: _) r.response.members :=
    hoptional.cons (.nat r.response.status.toNat)
  have hkeys := hresponse.append (Json.keysWithin_member? "fixedDelayMilliseconds"
    (fun delay : Duration => .nat delay.millis.toNat) r.fixedDelay)
  have hnodup : ∀ key ∈ StubResponse.Body.keys, ("status" :: ([key] ++ ["headers"] ++
      ["delayDistribution"] ++ ["chunkedDribbleDelay"] ++ ["fault"] ++ ["transformers"] ++
      ["transformerParameters"]) ++ ["fixedDelayMilliseconds"]).Nodup := by decide
  rw [responseJson, Json.repeatsKey_object_of_keysWithin hkeys (hnodup key hkey)]
  simp [StubResponse.members, hvalue, Json.nat, Delay.not_repeatsKey, Dribble.not_repeatsKey]

/-- No two members of `StubRule.toJson` have the same key. -/
theorem nodup_keys {r : StubRule} {members : List (String × Json)}
    (h : r.toJson = .object members) : (members.map Prod.fst).Nodup := by
  have hparts : Json.KeysWithin ["request", "response"]
      [("request", r.request.toJson), ("response", r.responseJson)] := List.Sublist.refl _
  have hoptional := (((((Json.keysWithin_member? "priority"
    (fun priority : Int64 => .int priority.toInt) r.priority).append
    (Json.keysWithin_member? "scenarioName" Json.string r.scenario)).append
    (Json.keysWithin_member? "requiredScenarioState" Json.string r.requiredState)).append
    (Json.keysWithin_member? "newScenarioState" Json.string r.newState)).append hparts).append
    (Json.keysWithin_listMember "postServeActions" Webhook.toJson r.postServeActions)
  have hkeys : Json.KeysWithin ("uuid" :: "id" :: _) _ :=
    (hoptional.cons (.string r.id.text)).cons (.string r.id.text)
  obtain rfl := Json.object.inj h
  -- The keys that are there are some of these, in this order.
  have hdistinct : (["uuid", "id"] ++ (["priority"] ++ ["scenarioName"] ++
      ["requiredScenarioState"] ++ ["newScenarioState"] ++ ["request", "response"] ++
      ["postServeActions"])).Nodup := by decide
  exact hdistinct.sublist hkeys

/-- `StubRule.toJson` repeats a key where the request pattern does. -/
theorem repeatsKey_toJson (r : StubRule) : r.toJson.RepeatsKey ↔ r.request.toJson.RepeatsKey := by
  rw [toJson, Json.repeatsKey_object_of_nodup (r.nodup_keys rfl)]
  -- All parts but the request pattern repeat no key.
  simp [Json.int, not_repeatsKey_responseJson, Webhook.not_repeatsKey]

/-- What is posted of a rule under a key is the value of what the rule has there. -/
theorem lookup_value {r : StubRule} {members sorted : List (String × Json)}
    (h : r.toJson = .object members) (hvalue : r.toJson.toValue.json = .object sorted)
    (key : String) : List.lookup key sorted = (List.lookup key members).map Json.canonical := by
  have hcanonical : (Json.object members).canonical = .object sorted := h ▸ hvalue
  exact Json.lookup_canonical_of_nodup hcanonical (nodup_keys h) key

end StubRule

/-! ## Rules built of matchers made by functions -/

open Matcher (Made AreMade)

/-- `AuthScheme.matcher` is made by functions if the matcher for the credentials is. -/
theorem RequestPattern.AuthScheme.exists_made (scheme : AuthScheme) {m : Matcher}
    {given : List (List EqualFlag)} (h : Made m given) : ∃ more, Made (scheme.matcher m) more := by
  have hstart : Made (Matcher.startsWith scheme.word) [] :=
    .text (by simp [Matcher.textComparisons]) scheme.word
  have hwhole : Made (m.prepend scheme.word) given := .prepend scheme.word h
  have hboth : AreMade [Matcher.startsWith scheme.word, m.prepend scheme.word] := by
    intro matcher hmem
    simp only [List.mem_cons, List.not_mem_nil, or_false] at hmem
    obtain rfl | rfl := hmem
    · exact ⟨_, hstart⟩
    · exact ⟨_, hwhole⟩
  obtain ⟨each, heach⟩ := hboth.exists_given
  cases scheme with
  -- A bearer token is one value, the other credentials are asked for with exactly two matchers.
  | bearer => exact ⟨_, .and hstart hwhole⟩
  | token | digest => exact ⟨_, .hasExactly heach⟩

namespace RequestPattern

/-- The matchers that a `RequestPattern.Step` is given. -/
def Step.matchers : Step → List Matcher
  | .host matcher | .header _ matcher | .queryParameter _ matcher | .pathParameter _ matcher
  | .formParameter _ matcher | .cookie _ matcher | .bodyPattern matcher => [matcher]
  | .multipartPattern pattern => pattern.matchers
  | .auth _ credentials => [credentials]
  | .method _ | .url _ | .scheme _ | .port _ | .basicAuth .. => []

/-- What a step puts into a pattern: for credentials their `AuthScheme.matcher`, else what it is
given. -/
def Step.written : Step → List Matcher
  | .auth kind credentials => [kind.matcher credentials]
  | step => step.matchers

/-- What a step puts in is made by functions if what it is given is. -/
theorem Step.areMade_written {step : Step} (h : AreMade step.matchers) : AreMade step.written := by
  -- Only credentials are put in another way than they are given.
  cases step with
  | auth kind credentials =>
    obtain ⟨given, hgiven⟩ := h credentials List.mem_cons_self
    intro m hm
    rw [List.mem_singleton.1 hm]
    exact kind.exists_made hgiven
  | _ => exact h

/-- A matcher after a step was there before, or is among those `Step.written`. -/
theorem mem_matchers_apply {r : RequestPattern} {step : Step} {m : Matcher}
    (h : m ∈ (r.apply step).matchers) : m ∈ r.matchers ∨ m ∈ step.written := by
  have hinsert : ∀ {d : Dict Matcher} {name : String} {matcher : Matcher},
      m ∈ (d.insert name matcher).values → m = matcher ∨ m ∈ d.values := Dict.mem_values_insert
  cases step with
  | method | url | scheme | port | basicAuth => exact .inl h
  | _ =>
    -- One place of the pattern is written to, and it holds what was there and what is written.
    simp only [apply, matchers, List.mem_append, Step.written, Step.matchers] at h ⊢
    grind

/-- `RequestPattern.apply` keeps all matchers made by functions. -/
theorem areMade_apply {r : RequestPattern} {step : Step} (h : AreMade r.matchers)
    (hstep : AreMade step.matchers) : AreMade (r.apply step).matchers := by
  intro m hm
  cases mem_matchers_apply hm with
  | inl hold => exact h m hold
  | inr hnew => exact Step.areMade_written hstep m hnew

end RequestPattern

namespace StubRule

/-- The matchers that a `StubRule.Step` is given, those of its request step. -/
def Step.matchers : Step → List Matcher
  | .request part => part.step.matchers
  | .respond _ | .reply .. | .fixedDelay _ | .priority _ | .scenario _ | .requiredState _
  | .newState _ | .postServeAction .. => []

/-- `StubRule.apply` does too, for of all steps only `Step.request` has matchers. -/
theorem areMade_apply {r : StubRule} {step : Step} (h : AreMade r.request.matchers)
    (hstep : AreMade step.matchers) : AreMade (r.apply step).request.matchers := by
  cases step with
  | request part => exact RequestPattern.areMade_apply h hstep
  | _ => exact h

/-- As long as the matchers of the rule and of all steps `AreMade`, so are those that `applyAll`
puts in. -/
theorem areMade_applyAll {r : StubRule} {steps : List Step} (h : AreMade r.request.matchers)
    (hsteps : AreMade (steps.flatMap Step.matchers)) :
    AreMade (r.applyAll steps).request.matchers := by
  induction steps generalizing r with
  | nil => exact h
  | cons step steps ih =>
    rw [List.flatMap_cons] at hsteps
    have hstep : AreMade step.matchers := fun m hm => hsteps m (List.mem_append_left _ hm)
    have hmore : AreMade (steps.flatMap Step.matchers) := fun m hm =>
      hsteps m (List.mem_append_right _ hm)
    -- The first step makes another rule, so the induction is for all rules.
    rw [applyAll_cons]
    exact ih (areMade_apply h hstep) hmore

/-- The text of a rule repeats a key if and only if a comparison in one of its matchers, at whatever
depth, has its strategy and flags with a repetition among them. If all matchers are made by
functions, this is to say that a flag was given twice where JSON is compared. -/
theorem textRepeatsKey_iff (r : StubRule) (steps : List Step) :
    let rule := r.applyAll steps
    (Json.TextRepeatsKey rule.text ↔
      ∃ m ∈ rule.request.matchers, ∃ strategy value flags,
        Node.text strategy value flags ∈ m.node.nodes ∧
          ¬((strategy.map Strategy.tag).toList ++ flags).Nodup) ∧
    (AreMade (r.request.matchers ++ steps.flatMap Step.matchers) →
      AreMade rule.request.matchers ∧
        (Json.TextRepeatsKey rule.text ↔
          ∃ m ∈ rule.request.matchers, ∃ given, Made m given ∧ ∃ flags ∈ given, ¬flags.Nodup)) := by
  intro rule
  -- Everything around the matchers has distinct keys.
  have htext : Json.TextRepeatsKey rule.text ↔ ∃ m ∈ rule.request.matchers, m.RepeatsTag := by
    rw [text, Json.textRepeatsKey_text, repeatsKey_toJson, RequestPattern.repeatsKey_toJson]
  constructor
  · simp only [htext, Matcher.repeatsTag_iff_exists_text]
    rfl
  · intro hmade
    have hrule : AreMade rule.request.matchers := areMade_applyAll
      (fun m hm => hmade m (List.mem_append_left _ hm))
      (fun m hm => hmade m (List.mem_append_right _ hm))
    exact ⟨hrule, htext.trans hrule.exists_repeatsTag_iff⟩

/-- A flag that is given twice is a key twice, inside of other matchers too. -/
theorem textRepeatsKey_iff_flagTwice :
    let start := of ⟨0, 0⟩ "GET" (.equalTo "/")
    let twice := Matcher.equalToJson "1" [.ignoreArrayOrder, .ignoreArrayOrder]
    let steps : List Step := [.request (.header "a" (twice.or Matcher.absent)), .priority 1]
    AreMade (start.request.matchers ++ steps.flatMap Step.matchers) ∧
      Json.TextRepeatsKey (start.applyAll steps).text := by
  intro start twice steps
  have hmatcher : Made (twice.or Matcher.absent)
      ([[.ignoreArrayOrder, .ignoreArrayOrder]] ++ []) := .or (.equalToJson _ _) .absent
  have hmade : AreMade (start.request.matchers ++ steps.flatMap Step.matchers) := by
    intro m hm
    rw [List.mem_singleton.1 hm]
    exact ⟨_, hmatcher⟩
  have hiff := ((textRepeatsKey_iff start steps).2 hmade).2
  exact ⟨hmade, hiff.2 ⟨_, List.mem_cons_self, _, hmatcher, _, List.mem_cons_self, by decide⟩⟩

end StubRule

end HttpStub
