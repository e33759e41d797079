import HttpStub.Proofs.Admin.Outcome
import HttpStub.Proofs.Rule.Keys

/-!
# What a rule answers

The steps that say how a rule answers write to the slots of its response: to all of them at once, or
to the status, one of the bodies and all headers. Of the writes to a slot the last one counts. Which
body is served is decided by the kinds of those that are set, whichever was set last, so a literal
body stays in front of all that are set after it. The delay in its old place is no part of the
response: it is what the last step for it says, and nothing below a millisecond.
-/

namespace HttpStub

namespace Duration

/-- All of the duration in nanoseconds. -/
def totalNanos (d : Duration) : Nat :=
  d.seconds * 1000000000 + d.nanos

/-- A duration has `wholeMillis` unless it is shorter than one. -/
theorem wholeMillis_pos_iff {d : Duration} : 0 < d.wholeMillis ↔ 1000000 ≤ d.totalNanos := by
  rw [wholeMillis, totalNanos]
  omega

end Duration

/-! ## Slots -/

namespace StubResponse

/-- A place in a response that a whole answer writes to. -/
inductive Slot where
  | status
  | header (name : String)
  | literalBody
  | binaryBody
  | bodyFile
  | jsonBody
deriving DecidableEq

/-- What stands in a slot; all but the status may be left out. -/
def Slot.Content : Slot → Type
  | .status => UInt16
  | .header _ | .literalBody | .bodyFile => Option String
  | .binaryBody => Option (List UInt8)
  | .jsonBody => Option Json.Value

/-- What a slot of a response holds. -/
def held (r : StubResponse) : (slot : Slot) → slot.Content
  | .status => r.status
  | .header name => r.headers.get? name
  | .literalBody => r.literalBody
  | .binaryBody => r.binaryBody
  | .bodyFile => r.bodyFile
  | .jsonBody => r.jsonBody

end StubResponse

namespace StubRule

open StubResponse (Slot)

/-- What a step writes to a slot of the response, if it does. A whole response writes to every slot,
and a reply to the status, to all headers and to the slot of its body. -/
def Step.write? : Step → (slot : Slot) → Option slot.Content
  | .respond response, slot => some (response.held slot)
  | .reply _ _ status, .status => some status
  -- A name that is not among the pairs is cleared, and of several pairs the last one counts.
  | .reply _ pairs _, .header name => some (List.lookup name pairs.reverse)
  | .reply (.text text) _ _, .literalBody => some (some text)
  | .reply (.binary bytes) _ _, .binaryBody => some (some bytes)
  | .reply (.file name) _ _, .bodyFile => some (some name)
  | .reply (.json value) _ _, .jsonBody => some (some value)
  | _, _ => none

/-- The last write of many steps to a slot. -/
def lastWrite? (steps : List Step) (slot : Slot) : Option slot.Content :=
  steps.reverse.findSome? fun step => step.write? slot

/-- The delay that a step sets in its old place. -/
def Step.fixedDelay? : Step → Option Duration
  | .fixedDelay delay => some delay
  | _ => none

/-- The last delay that many steps set in its old place. -/
def lastDelay? (steps : List Step) : Option Duration :=
  steps.reverse.findSome? Step.fixedDelay?

/-! ## Steps -/

/-- A slot holds after a step what the step writes to it, or else what it held before. -/
theorem held_apply (r : StubRule) (step : Step) (slot : Slot) :
    (r.apply step).response.held slot = (step.write? slot).getD (r.response.held slot) := by
  cases step with
  | reply body pairs status =>
    cases slot with
    | header name =>
      -- All headers are replaced, and of several pairs of one name the last one is kept.
      have hlast : (Dict.ofList pairs).get? name = List.lookup name pairs.reverse :=
        Entries.lookup_sort name pairs
      cases body <;> exact hlast
    | _ => cases body <;> rfl
  | _ => cases slot <;> rfl

/-- Every slot holds the `lastWrite?` to it. -/
theorem held_applyAll (r : StubRule) (steps : List Step) (slot : Slot) :
    (r.applyAll steps).response.held slot =
      (lastWrite? steps slot).getD (r.response.held slot) := by
  -- By induction on the steps, for every rule they may begin with.
  induction steps generalizing r with
  | nil => rfl
  | cons step steps ih =>
    -- The last of all writes is the last one behind the first step, or else that of the first step.
    rw [applyAll_cons, ih, held_apply, lastWrite?, lastWrite?, findSome?_reverse_cons,
      Option.getD_or]

/-- No delay below a millisecond is kept in the old place, neither a new one nor the one before. -/
theorem fixedDelay_apply (r : StubRule) (step : Step) :
    (r.apply step).fixedDelay =
      step.fixedDelay?.elim r.fixedDelay fun delay =>
        if 0 < delay.wholeMillis then some delay else none := by
  -- Only one kind of step touches the old place.
  cases step <;> rfl

/-- The old place has what the last `Step.fixedDelay` leaves there. -/
theorem fixedDelay_applyAll (r : StubRule) (steps : List Step) :
    (r.applyAll steps).fixedDelay =
      (lastDelay? steps).elim r.fixedDelay fun delay =>
        if 0 < delay.wholeMillis then some delay else none := by
  induction steps generalizing r with
  | nil => rfl
  | cons step steps ih =>
    rw [applyAll_cons, ih, fixedDelay_apply, lastDelay?, lastDelay?, findSome?_reverse_cons]
    -- A later step has its say whatever the first one did.
    cases steps.reverse.findSome? Step.fixedDelay? <;> rfl

/-- A rule that began without `fixedDelay` has the last delay there, if it lasts for a millisecond.
-/
theorem fixedDelay_eq_some_iff {r : StubRule} (h : r.fixedDelay = none) {steps : List Step}
    {delay : Duration} :
    (r.applyAll steps).fixedDelay = some delay ↔
      lastDelay? steps = some delay ∧ 1000000 ≤ delay.totalNanos := by
  rw [fixedDelay_applyAll, h, ← Duration.wholeMillis_pos_iff]
  cases lastDelay? steps with
  | none => simp
  | some last =>
    -- Only the last delay counts, even where it is too short to be kept.
    by_cases hlast : 0 < last.wholeMillis
    · rw [Option.elim_some, if_pos hlast]
      grind
    · rw [Option.elim_some, if_neg hlast]
      grind

/-- It has no `fixedDelay` if the last delay does not last for a millisecond. -/
theorem fixedDelay_eq_none_iff {r : StubRule} (h : r.fixedDelay = none) {steps : List Step} :
    (r.applyAll steps).fixedDelay = none ↔
      ∀ delay ∈ lastDelay? steps, delay.totalNanos < 1000000 := by
  simp only [Option.eq_none_iff_forall_ne_some, ne_eq, fixedDelay_eq_some_iff h, not_and,
    Nat.not_le, Option.mem_def]

/-! ## On the wire -/

/-- What the members of a response show: its status, its headers, the body that is served and the
delay in its old place. -/
structure Shows (members : List (String × Json)) (status : UInt16) (headers : Dict String)
    (body : StubResponse.Body) (fixedDelay : Option Duration) : Prop where
  status : List.lookup "status" members = some (.nat status.toNat)
  headers : List.lookup "headers" members =
    if headers.isEmpty then none else some (Json.ofDict .string headers)
  body : StubResponse.Body.read? members = some body
  fixedDelay : List.lookup "fixedDelayMilliseconds" members =
    fixedDelay.map fun delay => .nat delay.millis.toNat

/-- The members of the response, with the delay in its old place behind them. -/
def responseMembers (r : StubRule) : List (String × Json) :=
  r.response.members ++
    Json.member? "fixedDelayMilliseconds" (fun delay => .nat delay.millis.toNat) r.fixedDelay

/-- Under the keys for bodies stands what `Body.member` has there. -/
theorem lookup_responseMembers (r : StubRule) {key : String}
    (hkey : key ∈ StubResponse.Body.keys) :
    List.lookup key r.responseMembers = List.lookup key r.response.body.member := by
  have hdelay : key ≠ "fixedDelayMilliseconds" := by
    rintro rfl
    exact absurd hkey (by decide)
  -- The delay behind the members is under a key of its own.
  rw [responseMembers, List.lookup_append, r.response.lookup_members hkey,
    Json.lookup_member?_of_ne hdelay, Option.or_none]

/-- No body stands under a key that is not among `Body.keys`. -/
theorem lookup_member_of_notMem_keys (body : StubResponse.Body) {key : String}
    (hkey : key ∉ StubResponse.Body.keys) : List.lookup key body.member = none := by
  simp only [StubResponse.Body.keys, List.mem_cons, List.not_mem_nil, or_false, not_or] at hkey
  cases body <;> simp [StubResponse.Body.member, Entries.lookup_cons, hkey]

/-- `responseMembers` show the parts of the response, each under its key. -/
theorem shows_responseMembers (r : StubRule) :
    Shows r.responseMembers r.response.status r.response.headers r.response.body r.fixedDelay where
  status := rfl
  headers := by
    have hbody : List.lookup "headers" r.response.body.member = none :=
      lookup_member_of_notMem_keys r.response.body (by decide)
    simp [responseMembers, StubResponse.members, Entries.lookup_cons, List.lookup_append, hbody]
  -- At most one of the keys for bodies is there.
  body := StubResponse.Body.read?_of_lookup fun _ hkey => r.lookup_responseMembers hkey
  fixedDelay := by
    have hbody : List.lookup "fixedDelayMilliseconds" r.response.body.member = none :=
      lookup_member_of_notMem_keys r.response.body (by decide)
    simp [responseMembers, StubResponse.members, Entries.lookup_cons, List.lookup_append, hbody]

/-- In the value of `responseJson` each member has its own value, as none is repeated. -/
private theorem lookup_sorted {r : StubRule} {sorted : List (String × Json)}
    (h : r.responseJson.canonical = .object sorted) (key : String) :
    List.lookup key sorted = (List.lookup key r.responseMembers).map Json.canonical := by
  have hobject : ¬(Json.object r.responseMembers).RepeatsKey := r.not_repeatsKey_responseJson
  have hnodup : (r.responseMembers.map Prod.fst).Nodup :=
    not_not.1 (not_or.1 (Json.repeatsKey_object_iff.not.1 hobject)).1
  exact Json.lookup_canonical_of_nodup h hnodup key

/-- The value of the response `Shows` what the response does. -/
theorem shows_sorted {r : StubRule} {sorted : List (String × Json)}
    (h : r.responseJson.canonical = .object sorted) :
    Shows sorted r.response.status r.response.headers r.response.body r.fixedDelay := by
  -- Each member is looked up in the document, and its canonical form taken.
  obtain ⟨hstatus, hheaders, -, hdelay⟩ := r.shows_responseMembers
  refine ⟨?_, ?_, StubResponse.Body.read?_of_lookup fun key hkey => ?_, ?_⟩
  · rw [lookup_sorted h, hstatus]
    rfl
  · rw [lookup_sorted h, hheaders]
    split
    · rfl
    · rw [Option.map_some, Json.canonical_ofDict fun _ => rfl]
  · rw [lookup_sorted h, r.lookup_responseMembers hkey,
      StubResponse.Body.map_canonical_lookup_member]
  · rw [lookup_sorted h, hdelay, Option.map_map]
    rfl

/-- The response stands under its key in the text, and its value in the document that
`Operation.stubFor` posts. -/
private theorem lookup_response (ρ : Type) (r : StubRule) :
    ∃ document posted, r.toJson = .object document ∧
      (.stubFor r : Admin.Operation ρ).Posts (.object posted) ∧
      List.lookup "response" document = some r.responseJson ∧
      List.lookup "response" posted = some r.responseJson.canonical := by
  obtain ⟨document, hdocument⟩ : ∃ document, r.toJson = .object document := ⟨_, rfl⟩
  obtain ⟨posted, hposted⟩ : ∃ posted, r.toJson.toValue.json = .object posted := ⟨_, rfl⟩
  have hresponse : List.lookup "response" document = some r.responseJson := by
    obtain rfl := Json.object.inj hdocument
    simp [Entries.lookup_cons, List.lookup_append]
  have hposts : (.stubFor r : Admin.Operation ρ).Posts (.object posted) := by
    rw [← hposted]
    exact Admin.Operation.posts_of_document? rfl
  refine ⟨document, posted, hdocument, hposts, hresponse, ?_⟩
  -- No key of the document is repeated, so the value has the same members.
  rw [lookup_value hdocument hposted, hresponse, Option.map_some]

/-! ## Every order of steps -/

/-- A write that no later step covers is the `lastWrite?` to its slot. -/
theorem lastWrite?_append_cons {before later : List Step} {step : Step} {slot : Slot}
    {content : slot.Content} (h : step.write? slot = some content)
    (hlater : ∀ other ∈ later, other.write? slot = none) :
    lastWrite? (before ++ step :: later) slot = some content := by
  have hnone : later.reverse.findSome? (fun other => other.write? slot) = none :=
    List.findSome?_eq_none_iff.2 fun other hother => hlater other (List.mem_reverse.1 hother)
  rw [lastWrite?, List.reverse_append, List.reverse_cons, List.findSome?_append,
    List.findSome?_append, hnone, List.findSome?_singleton]
  simp only [h, Option.none_or, Option.some_or]

/-- After any steps a rule answers what was written last to each slot, and by default success. The
body that is served is the first in the order of their kinds, so a literal one outlives all others
that are set behind it. The delay in its old place is the last one set for it, and only there if it
lasts for a millisecond. All this is what the text and the posted document show. -/
theorem applyAll_answers_last_written (ρ : Type) (id : Uuid) (method : String) (url : UrlPattern)
    (steps : List Step) :
    let rule := (of id method url).applyAll steps
    (∀ slot, rule.response.held slot =
      (lastWrite? steps slot).getD (StubResponse.ok.held slot)) ∧
    rule.response.body = rule.response.firstSet ∧
    (∀ before text pairs status later,
      steps = before ++ .reply (.text text) pairs status :: later →
        (∀ step ∈ later, step.write? .literalBody = none) →
          rule.response.body = .literal text) ∧
    (∀ delay, rule.fixedDelay = some delay ↔
      lastDelay? steps = some delay ∧ 1000000 ≤ delay.totalNanos) ∧
    ∃ document posted members sorted,
      (rule.toJson = .object document ∧
        (.stubFor rule : Admin.Operation ρ).Posts (.object posted)) ∧
      (List.lookup "response" document = some (.object members) ∧
        List.lookup "response" posted = some (.object sorted)) ∧
      ∀ shown ∈ [members, sorted],
        Shows shown rule.response.status rule.response.headers rule.response.body rule.fixedDelay ∧
        (List.lookup "fixedDelayMilliseconds" shown = none ↔
          ∀ delay ∈ lastDelay? steps, delay.totalNanos < 1000000) := by
  intro rule
  have hheld : ∀ slot, rule.response.held slot =
      (lastWrite? steps slot).getD (StubResponse.ok.held slot) :=
    held_applyAll (of id method url) steps
  -- Whether the old place is told is the same question in the text and in the value.
  have habsent : ∀ {shown status headers body}, Shows shown status headers body rule.fixedDelay →
      (List.lookup "fixedDelayMilliseconds" shown = none ↔
        ∀ delay ∈ lastDelay? steps, delay.totalNanos < 1000000) := by
    intro shown status headers body h
    rw [h.fixedDelay, Option.map_eq_none_iff, fixedDelay_eq_none_iff rfl]
  refine ⟨hheld, rule.response.body_eq_firstSet, ?_, fun delay => fixedDelay_eq_some_iff rfl, ?_⟩
  · -- No later step writes to the slot of literal bodies, and a literal body is served first.
    intro before text pairs status later hsteps hlater
    have hliteral : rule.response.literalBody = some text := by
      have hlast : lastWrite? steps .literalBody = some (some text) :=
        hsteps ▸ lastWrite?_append_cons rfl hlater
      have hslot := hheld .literalBody
      rw [hlast] at hslot
      exact hslot
    rw [StubResponse.body_eq_firstSet, StubResponse.firstSet, hliteral]
    rfl
  · obtain ⟨document, posted, hdocument, hposts, hmember, hsorted⟩ := lookup_response ρ rule
    obtain ⟨sorted, hcanonical⟩ : ∃ sorted, rule.responseJson.canonical = .object sorted := ⟨_, rfl⟩
    rw [hcanonical] at hsorted
    have hmembers := rule.shows_responseMembers
    have hvalue := shows_sorted hcanonical
    refine ⟨document, posted, rule.responseMembers, sorted, ⟨hdocument, hposts⟩,
      ⟨hmember, hsorted⟩, ?_⟩
    simp only [List.forall_mem_cons, List.not_mem_nil, false_imp_iff, implies_true, and_true]
    exact ⟨⟨hmembers, habsent hmembers⟩, hvalue, habsent hvalue⟩

/-- A JSON body that is set later leaves a literal one in front. -/
example :
    let steps : List Step :=
      [.reply (.text "a") [] 200, .reply (.json (Json.toValue .null)) [] 201]
    let response := ((of ⟨0, 0⟩ "GET" (.equalTo "/")).applyAll steps).response
    response.body = .literal "a" ∧ response.status = 201 := ⟨rfl, rfl⟩

end StubRule

end HttpStub
