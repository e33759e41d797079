import HttpStub.Request.Basic
import Mathlib.Logic.Function.Basic
import Mathlib.Data.List.Basic

/-!
# The slots of a request pattern

Every step writes to one slot of the pattern: a single part of it, one name in one of its
dictionaries, or one of the two lists that gather patterns. A slot that gathers holds all that has
been written to it in order, and any other slot only what was written last. So what a run of steps
builds depends on the order of writes within a slot, and not on how those to different slots are
mixed.
-/

namespace HttpStub.RequestPattern

/-- A place in a pattern that steps write to. -/
inductive Slot where
  | method
  | url
  | scheme
  | host
  | port
  | header (name : String)
  | queryParameter (name : String)
  | pathParameter (name : String)
  | formParameter (name : String)
  | cookie (name : String)
  | bodyPatterns
  | multipartPatterns
  | credentials
deriving DecidableEq

/-- Whether a slot keeps all that is written to it, as only two of them do. -/
def Slot.gathers : Slot → Bool
  | .bodyPatterns | .multipartPatterns => true
  | _ => false

/-- What is written to a `Slot`. -/
inductive Content where
  | text (text : String)
  | url (url : UrlPattern)
  | matcher (matcher : Matcher)
  | port (port : UInt16)
  | part (pattern : MultipartPattern)
  | credentials (credentials : Credentials)

/-- What a slot of a pattern holds, in the order in which it came there. -/
def held (r : RequestPattern) : Slot → List Content
  | .method => [.text r.method]
  | .url => [.url r.url]
  | .scheme => r.scheme.toList.map .text
  | .host => r.host.toList.map .matcher
  | .port => r.port.toList.map .port
  | .header name => (r.headers.get? name).toList.map .matcher
  | .queryParameter name => (r.queryParameters.get? name).toList.map .matcher
  | .pathParameter name => (r.pathParameters.get? name).toList.map .matcher
  | .formParameter name => (r.formParameters.get? name).toList.map .matcher
  | .cookie name => (r.cookies.get? name).toList.map .matcher
  | .bodyPatterns => r.bodyPatterns.map .matcher
  | .multipartPatterns => r.multipartPatterns.map .part
  | .credentials => r.credentials.toList.map .credentials

/-- The slot that a step writes to, and what it writes there. -/
def Step.write : Step → Slot × Content
  | .method m => (.method, .text m)
  | .url u => (.url, .url u)
  | .scheme s => (.scheme, .text s)
  | .host m => (.host, .matcher m)
  | .port n => (.port, .port n)
  | .header name m => (.header name, .matcher m)
  | .queryParameter name m => (.queryParameter name, .matcher m)
  | .pathParameter name m => (.pathParameter name, .matcher m)
  | .formParameter name m => (.formParameter name, .matcher m)
  | .cookie name m => (.cookie name, .matcher m)
  | .bodyPattern m => (.bodyPatterns, .matcher m)
  | .multipartPattern p => (.multipartPatterns, .part p)
  | .basicAuth username password => (.credentials, .credentials ⟨username, password⟩)
  -- All credentials behind a word go into one header, whatever the scheme.
  | .auth s m => (.header authorization, .matcher (s.matcher m))

/-- What the steps write to a slot, each as `Step.write` says, in their order. -/
def written (slot : Slot) (steps : List Step) : List Content :=
  ((steps.map Step.write).filter fun w => w.1 = slot).map Prod.snd

/-- What stays in a slot of all that came there: everything where it `gathers`, else the last. -/
def Slot.settle (slot : Slot) (contents : List Content) : List Content :=
  if slot.gathers then contents else contents.getLast?.toList

/-- What the first step writes comes first among what is `written`. -/
theorem written_cons (slot : Slot) (step : Step) (steps : List Step) :
    written slot (step :: steps) =
      (if step.write.1 = slot then [step.write.2] else []) ++ written slot steps := by
  by_cases h : step.write.1 = slot <;> simp [written, h]

/-- What `Slot.settle` leaves counts like all that it settled from. -/
theorem Slot.settle_settle_append (slot : Slot) (contents more : List Content) :
    slot.settle (slot.settle contents ++ more) = slot.settle (contents ++ more) := by
  unfold settle
  by_cases h : slot.gathers = true
  · simp [h]
  · simp only [h, if_false, Bool.false_eq_true]
    -- The last of all is among those behind, or it is the last of those before.
    rw [List.getLast?_append, List.getLast?_append]
    cases contents.getLast? <;> simp

/-! ## One step -/

/-- What a slot holds has settled, so `Slot.settle` leaves it. -/
theorem settle_held (r : RequestPattern) (slot : Slot) :
    slot.settle (r.held slot) = r.held slot := by
  have htoList : ∀ {α : Type} (f : α → Content) (a : Option α),
      ((a.toList.map f).getLast?).toList = a.toList.map f := fun f a => by cases a <;> rfl
  -- A slot that does not gather holds one thing at most.
  cases slot <;> first | rfl | exact htoList ..

/-- `apply` leaves all slots but that of the step as they are. -/
theorem held_apply_of_ne (r : RequestPattern) {step : Step} {slot : Slot}
    (h : step.write.1 ≠ slot) : (r.apply step).held slot = r.held slot := by
  -- Slots of one dictionary differ by their names, all others by their kinds.
  cases step <;> cases slot <;> first
    | rfl
    | simp_all [Step.write, held, apply, Dict.get?_insert, eq_comm]

/-- To what its slot holds a step adds what `Step.write` says, and the rest is settled. -/
theorem held_apply_write (r : RequestPattern) (step : Step) :
    (r.apply step).held step.write.1 =
      step.write.1.settle (r.held step.write.1 ++ [step.write.2]) := by
  -- One case a step: its slot is overwritten, or something is put behind.
  cases step <;> simp [Step.write, held, apply, Slot.settle, Slot.gathers, Dict.get?_insert]

/-- `apply` writes to the slot of the step, and to no other. -/
theorem held_apply (r : RequestPattern) (step : Step) (slot : Slot) :
    (r.apply step).held slot =
      slot.settle (r.held slot ++ if step.write.1 = slot then [step.write.2] else []) := by
  by_cases h : step.write.1 = slot
  · subst h
    rw [if_pos rfl, held_apply_write]
  · rw [if_neg h, List.append_nil, settle_held, held_apply_of_ne r h]

/-! ## Many steps -/

/-- `applyAll` leaves in each slot what settles of all that the steps write to it. -/
theorem held_applyAll (r : RequestPattern) (steps : List Step) (slot : Slot) :
    (r.applyAll steps).held slot = slot.settle (r.held slot ++ written slot steps) := by
  -- By induction on the steps, for every pattern they may begin with.
  induction steps generalizing r with
  | nil =>
    have hnone : written slot [] = [] := rfl
    rw [hnone, List.append_nil, settle_held]
    rfl
  | cons step steps ih =>
    -- What the first step leaves has settled, and the others add to it.
    have hfirst : r.applyAll (step :: steps) = (r.apply step).applyAll steps := rfl
    rw [hfirst, ih, held_apply, Slot.settle_settle_append, written_cons, List.append_assoc]

/-- What its slots hold, by `held`, is all there is about a pattern. -/
theorem ext_held {r s : RequestPattern} (h : ∀ slot, r.held slot = s.held slot) : r = s := by
  -- An optional part is told by the list of at most one content.
  have hoption : ∀ {α : Type} {f : α → Content}, Function.Injective f → ∀ {a b : Option α},
      a.toList.map f = b.toList.map f → a = b := by
    intro α f hf a b hab
    cases a <;> cases b <;> simp_all [hf.eq_iff]
  have hmatcher : Function.Injective Content.matcher := fun _ _ => Content.matcher.inj
  -- A dictionary is what is found under each name, so its slots tell it.
  have hdict : ∀ {d e : Dict Matcher}, (∀ name, ((d.get? name).toList.map Content.matcher) =
      (e.get? name).toList.map Content.matcher) → d = e :=
    fun hde => Dict.ext_get? fun name => hoption hmatcher (hde name)
  cases r
  cases s
  rw [mk.injEq]
  refine ⟨Content.text.inj (List.cons.inj (h .method)).1,
    Content.url.inj (List.cons.inj (h .url)).1,
    hoption (fun _ _ => Content.text.inj) (h .scheme), hoption hmatcher (h .host),
    hoption (fun _ _ => Content.port.inj) (h .port), hdict fun name => h (.header name),
    hdict fun name => h (.queryParameter name), hdict fun name => h (.pathParameter name),
    hdict fun name => h (.formParameter name), hdict fun name => h (.cookie name),
    List.map_injective_iff.2 hmatcher (h .bodyPatterns),
    List.map_injective_iff.2 (fun _ _ => Content.part.inj) (h .multipartPatterns),
    hoption (fun _ _ => Content.credentials.inj) (h .credentials)⟩

/-- A slot for which `gathers` is false holds what was written last, or what it held before. -/
private theorem settle_held_append (r : RequestPattern) {slot : Slot} (h : slot.gathers = false)
    (contents : List Content) :
    slot.settle (r.held slot ++ contents) =
      contents.getLast?.elim (r.held slot) fun last => [last] := by
  cases hlast : contents.getLast? with
  | none =>
    rw [List.getLast?_eq_none_iff.1 hlast, List.append_nil, settle_held]
    rfl
  | some last => simp [Slot.settle, h, hlast]

/-- Steps on different slots commute. A slot that gathers holds what it held before and behind it
all that the steps write to it, in order; any other slot holds the last thing written to it, or what
it held before. So runs of steps that write the same to every slot, however they mix the writes to
different slots, build the same pattern, and it is written as the same text. -/
theorem applyAll_determined_by_slots (r : RequestPattern) :
    (∀ (steps : List Step) (slot : Slot), slot.gathers = true →
        (r.applyAll steps).held slot = r.held slot ++ written slot steps) ∧
      (∀ (steps : List Step) (slot : Slot), slot.gathers = false →
        (r.applyAll steps).held slot =
          (written slot steps).getLast?.elim (r.held slot) fun last => [last]) ∧
      ∀ steps others : List Step, (∀ slot, written slot steps = written slot others) →
        r.applyAll steps = r.applyAll others ∧
          (r.applyAll steps).toJson.text = (r.applyAll others).toJson.text := by
  refine ⟨fun steps slot h => ?_, fun steps slot h => ?_, fun steps others h => ?_⟩
  · rw [held_applyAll, Slot.settle, if_pos h]
  · rw [held_applyAll, settle_held_append r h]
  · -- Equal writes settle to equal contents in every slot.
    have heq : r.applyAll steps = r.applyAll others := by
      refine ext_held fun slot => ?_
      rw [held_applyAll, held_applyAll, h slot]
    exact ⟨heq, by rw [heq]⟩

/-- A bearer token and a header are written to one slot, between them a cookie of the same name and
two body patterns to others. -/
theorem applyAll_determined_by_slots_mixed :
    let token := Step.auth .bearer (.equalTo "a")
    let header := Step.header authorization .absent
    let cookie := Step.cookie authorization (.contains "b")
    let first := Step.bodyPattern (.equalTo "c")
    let second := Step.bodyPattern .absent
    let r := of "GET" (.equalTo "/")
    (∀ slot, written slot [token, cookie, first, header, second] =
        written slot [first, second, token, header, cookie]) ∧
      r.applyAll [token, cookie, first, header, second] =
        r.applyAll [first, second, token, header, cookie] := by
  have hwritten : ∀ slot,
      written slot [.auth .bearer (.equalTo "a"), .cookie authorization (.contains "b"),
          .bodyPattern (.equalTo "c"), .header authorization .absent, .bodyPattern .absent] =
        written slot [.bodyPattern (.equalTo "c"), .bodyPattern .absent,
          .auth .bearer (.equalTo "a"), .header authorization .absent,
          .cookie authorization (.contains "b")] := by
    intro slot
    cases slot <;> simp [written, Step.write, List.filter_cons]
  exact ⟨hwritten, ((applyAll_determined_by_slots _).2.2 _ _ hwritten).1⟩

end HttpStub.RequestPattern
