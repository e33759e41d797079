import HttpStub.Grpc.Stub
import HttpStub.Proofs.Rule.Places

/-!
# What a stub of a remote call is made of

A stub is built in a run of calls: messages to be accepted are gathered, and of the replies the last
one counts. A reply is begun in one of four ways and may then be delayed, several times over. The
rule of the stub is determined by what was gathered and by that last reply. Its response tells the
caller what became of the call by one part only, a reason, a fault or a body, and nothing but a body
is delayed.
-/

namespace HttpStub.Grpc

/-! ## Replies in the making -/

namespace Reply

/-- What tells the caller how the call has ended, at one of `Part.places`. -/
inductive Part where
  /-- A header with the reason of a failure. -/
  | reason
  /-- A fault that breaks the connection. -/
  | fault
  /-- A body, which is the message. -/
  | body
deriving DecidableEq

/-- How a reply begins, in one of the ways of `Reply`. -/
inductive Opening where
  /-- A failure with its reason. -/
  | failure (code : Code) (reason : String)
  /-- A message, given as its JSON text. -/
  | json (text : String)
  /-- A message, given as data. -/
  | message (data : Data)
  /-- A connection that breaks. -/
  | broken (fault : NetworkFault)

namespace Opening

/-- Begins a reply by the functions of `Reply`; data has to be written for it. -/
def reply? : Opening → Except Error Reply
  | .failure code reason => .ok (Reply.failure code reason)
  | .json text => .ok (Reply.json text)
  | .message data => Reply.message data
  | .broken fault => .ok (Reply.broken fault)

/-- If the reply is a message of data, `Data.text?` can write it. -/
def IsWritten : Opening → Prop
  | .message data => ∃ text, data.text? = .ok text
  | .failure .. | .json _ | .broken _ => True

/-- The outcome that is named, in the header `statusHeader`. -/
def code : Opening → Code
  | .failure code _ => code
  | .json _ | .message _ | .broken _ => .ok

/-- The `Part` that tells how the call has ended. -/
def part : Opening → Part
  | .failure .. => .reason
  | .broken _ => .fault
  | .json _ | .message _ => .body

/-- The reason of a failure, in the header `reasonHeader`. -/
def reason? : Opening → Option String
  | .failure _ reason => some reason
  | .json _ | .message _ | .broken _ => none

/-- The `NetworkFault` that breaks the connection. -/
def fault? : Opening → Option NetworkFault
  | .broken fault => some fault
  | .failure .. | .json _ | .message _ => none

/-- The text of a message, given as text or written by `Data.text?`. -/
def body? : Opening → Option String
  | .json text => some text
  | .message data => data.text?.toOption
  | .failure .. | .broken _ => none

/-- The body of a message is the text of its data, as `Data.text?` writes it. -/
theorem body?_message {data : Data} {text : String} (h : data.text? = .ok text) :
    body? (.message data) = some text := by
  rw [body?, h]
  rfl

/-- The `StubResponse` that belongs to the reply: what names the outcome, the one part that tells
how the call has ended, and the delay if that part is a body. -/
def response (o : Opening) (delay : Option Delay) : StubResponse :=
  { StubResponse.ok with
    headers := .ofList ((statusHeader, o.code.name) ::
      (o.reason?.map fun reason => (reasonHeader, reason)).toList)
    literalBody := o.body?
    fault := o.fault?
    delay := if o.part = .body then delay else none }

/-- `Opening.reply?` begins a reply without a delay, and the response of that reply is
`Opening.response`, however it is delayed. -/
theorem exists_outcome {o : Opening} (h : o.IsWritten) :
    ∃ outcome, o.reply? = .ok ⟨outcome, none⟩ ∧
      ∀ delay, Reply.response ⟨outcome, delay⟩ = o.response delay := by
  cases o with
  | failure code reason =>
    refine ⟨_, rfl, fun delay => ?_⟩
    -- The headers are put in one by one, and they are in the order of their names already.
    have hheaders : (StubResponse.ok.headers.insert statusHeader code.name).insert reasonHeader
        reason = .ofList [(statusHeader, code.name), (reasonHeader, reason)] := by
      simp [StubResponse.ok, Dict.empty, Dict.insert, Dict.ofList, Entries.sort]
    simp only [Reply.response, StubResponse.applyAll, List.foldl_cons, List.foldl_nil,
      StubResponse.apply, hheaders]
    rfl
  | json text =>
    refine ⟨_, rfl, fun delay => ?_⟩
    -- Only a body takes the delay along.
    cases delay <;> rfl
  | message data =>
    -- Where the data can be written, the message is its text.
    obtain ⟨text, htext⟩ := h
    refine ⟨.message text, ?_, fun delay => ?_⟩
    · rw [reply?, Reply.message, htext]
      rfl
    · rw [response, body?_message htext]
      cases delay <;> rfl
  | broken fault => exact ⟨_, rfl, fun _ => rfl⟩

end Opening

/-- Of several delays that `after` puts on a reply the last one stays. -/
theorem foldl_after (r : Reply) (delays : List Delay) :
    delays.foldl after r = { r with delay := delays.getLast?.or r.delay } := by
  -- By induction on the delays, each of which replaces the one before.
  induction delays generalizing r with
  | nil => rfl
  | cons delay delays ih =>
    rw [List.foldl_cons, ih, List.getLast?_cons]
    cases delays.getLast? <;> rfl

/-- A reply in the making: how it begins, and the delays that `after` puts on it one after the
other. -/
structure Draft where
  opening : Opening
  /-- The delays, in the order of the calls. -/
  delays : List Delay

namespace Draft

/-- Makes the reply, with `after` for each of its delays. -/
def reply? (d : Draft) : Except Error Reply :=
  d.opening.reply?.map fun start => d.delays.foldl after start

/-- The `Opening.response` that belongs to the reply with the last of its delays. -/
def response (d : Draft) : StubResponse :=
  d.opening.response d.delays.getLast?

/-- A draft whose data can be written makes a reply by `Draft.reply?`, with the response
`Draft.response`. -/
theorem exists_reply {d : Draft} (h : d.opening.IsWritten) :
    ∃ r, d.reply? = .ok r ∧ r.response = d.response := by
  obtain ⟨outcome, hreply, hresponse⟩ := Opening.exists_outcome h
  refine ⟨⟨outcome, d.delays.getLast?⟩, ?_, hresponse d.delays.getLast?⟩
  rw [reply?, hreply, Except.map, foldl_after, Option.or_none]

end Draft

end Reply

/-! ## What the caller is told -/

namespace Reply

/-- The places at which the document of a rule may have the part; a body has one for each of
`Body.keys`. -/
def Part.places : Part → List (List String)
  | .reason => [["response", "headers", reasonHeader]]
  | .fault => [["response", "fault"]]
  | .body => StubResponse.Body.keys.map fun key => ["response", key]

/-- The document has the part at one of its `Part.places`. -/
def Part.IsIn (part : Part) (document : Json) : Prop :=
  ∃ place ∈ part.places, (document.find? place).isSome

namespace Opening

/-- Whether the `Opening.response` has the part. -/
def carries (o : Opening) : Part → Bool
  | .reason => o.reason?.isSome
  | .fault => o.fault?.isSome
  | .body => o.body?.isSome

/-- A response `carries` one part and no other. -/
theorem carries_iff {o : Opening} (h : o.IsWritten) (part : Part) :
    o.carries part ↔ part = o.part := by
  -- One case for each way to begin, and in it one for each part.
  cases o with
  | message data =>
    obtain ⟨text, htext⟩ := h
    cases part <;> simp [carries, body?_message htext, reason?, fault?, Opening.part]
  | failure code reason => cases part <;> simp [carries, reason?, fault?, body?, Opening.part]
  | json text => cases part <;> simp [carries, reason?, fault?, body?, Opening.part]
  | broken fault => cases part <;> simp [carries, reason?, fault?, body?, Opening.part]

variable (o : Opening) (delay : Option Delay)

/-- Every response names the outcome in the header `statusHeader`. -/
theorem get?_statusHeader : (o.response delay).headers.get? statusHeader = some o.code.name := by
  -- Both headers are put in by name, and their names differ.
  rw [response, Dict.get?, Dict.ofList, Entries.lookup_sort]
  cases o.reason? <;> simp [Entries.lookup_cons, statusHeader, reasonHeader]

/-- It has a `reasonHeader` if it is that of a failure, and none else. -/
theorem get?_reasonHeader : (o.response delay).headers.get? reasonHeader = o.reason? := by
  rw [response, Dict.get?, Dict.ofList, Entries.lookup_sort]
  cases o.reason? <;> simp [statusHeader, reasonHeader]

/-- Nothing but a body is delayed in `Opening.response`. -/
theorem map_delay_response {α : Type} (f : Delay → α) :
    (o.response delay).delay.map f = if o.part = .body then delay.map f else none := by
  rw [response]
  split <;> rfl

/-- The `StubResponse.body` of it is the text of the message, if there is one. -/
theorem body_response : (o.response delay).body = o.body?.elim .none .literal := by
  cases h : o.body? <;> simp [StubResponse.body, response, h, StubResponse.ok]

/-- The text of a message stands under the key of a literal body in `Body.member`, and nothing
stands there if there is no message. -/
theorem lookup_body_response :
    List.lookup "body" (o.response delay).body.member = o.body?.map Json.string := by
  rw [body_response]
  cases o.body? <;> simp [StubResponse.Body.member]

/-- Under one of `Body.keys` stands something if and only if there is a body. -/
theorem exists_lookup_body_iff :
    (∃ key ∈ StubResponse.Body.keys,
      (List.lookup key (o.response delay).body.member).isSome) ↔ o.body?.isSome := by
  rw [body_response]
  cases o.body? with
  | none => simp [StubResponse.Body.member]
  | some text =>
    refine iff_of_true ⟨"body", by decide, ?_⟩ rfl
    simp [StubResponse.Body.member]

end Opening

/-- The document of a rule with this response has the parts that the response `carries`. -/
theorem Part.isIn_iff_carries {rule : StubRule} {o : Opening} {delay : Option Delay}
    (h : rule.response = o.response delay) {document : Json}
    (hdocument : document ∈ [rule.toJson, rule.toJson.toValue.json]) (part : Part) :
    part.IsIn document ↔ o.carries part := by
  cases part with
  -- Each part has its places in the document, at which the rule tells what the response has.
  | reason =>
    have htells := (rule.tells_header reasonHeader).isSome_find? hdocument
    rw [h, o.get?_reasonHeader delay, Option.isSome_map] at htells
    simp [IsIn, places, Opening.carries, htells]
  | fault =>
    have htells := rule.tells_fault.isSome_find? hdocument
    rw [Option.isSome_map, h] at htells
    simp [IsIn, places, Opening.carries, htells, Opening.response]
  | body =>
    -- A body stands under one of several keys, so there the place has to be found.
    have htells : ∀ key ∈ StubResponse.Body.keys, (document.find? ["response", key]).isSome =
        (List.lookup key (o.response delay).body.member).isSome := by
      intro key hkey
      rw [← h]
      exact (rule.tells_body hkey).isSome_find? hdocument
    rw [Opening.carries, ← o.exists_lookup_body_iff delay, IsIn, places]
    constructor
    · rintro ⟨place, hplace, hfound⟩
      obtain ⟨key, hkey, rfl⟩ := List.mem_map.1 hplace
      exact ⟨key, hkey, htells key hkey ▸ hfound⟩
    · rintro ⟨key, hkey, hfound⟩
      exact ⟨_, List.mem_map_of_mem hkey, (htells key hkey).trans hfound⟩

end Reply

/-! ## Runs of calls -/

namespace MethodStub

open HttpStub.Grpc.Reply (Draft Opening statusHeader reasonHeader)

/-- One thing that is called to build a stub, by `call?`. -/
inductive Call where
  /-- Gathers a message to be accepted. -/
  | requestMessage (matcher : Matcher)
  /-- Sets the reply. -/
  | reply (draft : Draft)

/-- The matcher that the call gathers, for `MethodStub.messages`. -/
def Call.message? : Call → Option Matcher
  | .requestMessage matcher => some matcher
  | .reply _ => none

/-- The reply that the call sets, as a `Draft`. -/
def Call.draft? : Call → Option Draft
  | .requestMessage _ => none
  | .reply draft => some draft

/-- The last reply that is set, by `Call.draft?`. -/
def lastDraft? (calls : List Call) : Option Draft :=
  calls.reverse.findSome? Call.draft?

/-- Makes one `Call`. -/
def call? (s : MethodStub) : Call → Except Error MethodStub
  | .requestMessage matcher => .ok (s.apply (.requestMessage matcher))
  | .reply draft => draft.reply?.map fun reply => s.apply (.reply reply)

/-- Makes the calls one after the other, with `call?`. -/
def callAll? (s : MethodStub) (calls : List Call) : Except Error MethodStub :=
  calls.foldlM call? s

/-- The stub has gathered these `messages` more than before, and answers with this response if there
is one and as before if not. -/
structure Gathers (before after : MethodStub) (messages : List Matcher)
    (response : Option StubResponse) : Prop where
  method : after.method = before.method
  /-- The messages are put behind those before. -/
  messages : after.messages = before.messages ++ messages
  /-- The reply is that of the run, if it sets one. -/
  response : after.reply.map Reply.response = response.or (before.reply.map Reply.response)

/-- A `Call` gathers its message or sets its reply. -/
theorem exists_call (s : MethodStub) {call : Call}
    (h : ∀ draft ∈ call.draft?, draft.opening.IsWritten) :
    ∃ t, s.call? call = .ok t ∧
      Gathers s t call.message?.toList (call.draft?.map Draft.response) := by
  cases call with
  | requestMessage matcher => exact ⟨_, rfl, rfl, rfl, rfl⟩
  | reply draft =>
    obtain ⟨reply, hreply, hresponse⟩ := Draft.exists_reply (h draft rfl)
    refine ⟨s.apply (.reply reply), ?_, rfl, (List.append_nil _).symm, congrArg some hresponse⟩
    rw [call?, hreply, Except.map]

/-- `callAll?` gathers the messages in their order and leaves the last reply. -/
theorem exists_callAll (s : MethodStub) {calls : List Call}
    (h : ∀ draft, .reply draft ∈ calls → draft.opening.IsWritten) :
    ∃ t, s.callAll? calls = .ok t ∧
      Gathers s t (calls.filterMap Call.message?) ((lastDraft? calls).map Draft.response) := by
  -- By induction on the calls, for every stub they may begin with.
  induction calls generalizing s with
  | nil => exact ⟨s, rfl, rfl, (List.append_nil _).symm, rfl⟩
  | cons call calls ih =>
    have hcall : ∀ draft ∈ call.draft?, draft.opening.IsWritten := by
      intro draft hdraft
      cases call with
      | requestMessage matcher => cases hdraft
      | reply first =>
        obtain rfl : first = draft := Option.some.inj hdraft
        exact h first List.mem_cons_self
    -- The call makes the first step, and the rest of the run starts from there.
    obtain ⟨next, hnext, hfirst⟩ := s.exists_call hcall
    obtain ⟨t, ht, hrest⟩ := ih next fun draft hdraft => h draft (List.mem_cons_of_mem _ hdraft)
    refine ⟨t, ?_, hrest.method.trans hfirst.method, ?_, ?_⟩
    · rw [callAll?, List.foldlM_cons, hnext]
      exact ht
    · rw [hrest.messages, hfirst.messages, List.append_assoc]
      cases call <;> rfl
    · -- What the later calls set comes before what this one does.
      rw [hrest.response, hfirst.response, lastDraft?, lastDraft?, findSome?_reverse_cons,
        ← Option.or_assoc, Option.map_or]

/-! ## The rule of a stub -/

/-- Body patterns are gathered by `StubRule.apply` in their order, and nothing else is touched. -/
theorem foldl_bodyPattern (r : StubRule) (messages : List Matcher) :
    messages.foldl (fun rule m => rule.apply (.request (.bodyPattern m))) r =
      { r with
        request := { r.request with bodyPatterns := r.request.bodyPatterns ++ messages } } := by
  induction messages generalizing r with
  | nil => simp
  | cons m messages ih =>
    rw [List.foldl_cons, ih]
    simp [StubRule.apply, StubRule.RequestPart.step, RequestPattern.apply]

/-- `MethodStub.rule` is a plain rule but for the messages and the reply. -/
theorem rule_eq (s : MethodStub) (id : Uuid) (service : String) :
    let plain := StubRule.of id "POST" (.pathEqualTo ("/" ++ service ++ "/" ++ s.method))
    s.rule id service =
      { plain with
        request := { plain.request with bodyPatterns := s.messages }
        response := (s.reply.map Reply.response).getD (Reply.json "").response } := by
  intro plain
  have hreply : (s.reply.getD (Reply.json "")).response =
      (s.reply.map Reply.response).getD (Reply.json "").response := by
    cases s.reply <;> rfl
  rw [← hreply, rule, foldl_bodyPattern]
  rfl

/-- The `lastDraft?` is one of the calls, and an empty message is written anyway. -/
theorem isWritten_lastDraft {calls : List Call}
    (h : ∀ draft, .reply draft ∈ calls → draft.opening.IsWritten) :
    ((lastDraft? calls).getD ⟨.json "", []⟩).opening.IsWritten := by
  cases hlast : lastDraft? calls with
  | none => trivial
  | some draft =>
    obtain ⟨call, hmem, hcall⟩ := List.exists_of_findSome?_eq_some hlast
    cases call with
    | requestMessage matcher => cases hcall
    | reply last =>
      obtain rfl : last = draft := Option.some.inj hcall
      exact h last (List.mem_reverse.1 hmem)

/-- A stub without a reply answers like one with an empty message, which is `Reply.json` of the
empty text. -/
theorem getD_lastDraft?_response (calls : List Call) :
    ((lastDraft? calls).map Draft.response).getD (Reply.json "").response =
      ((lastDraft? calls).getD ⟨.json "", []⟩).response := by
  cases lastDraft? calls <;> rfl

/-- Every run of calls whose messages can be written builds a stub. Its rule is that of a post to
the path of service and method, with the matchers that were gathered for the body, and with the
response of the last reply that was set, or of an empty message if none was. The document of the
rule, and its value as well, gives the status 200 and names the outcome. It tells the reason, the
fault and the text of the message as that reply was begun with them. So it has one of the three
parts and no other, and the last delay of the reply if that part is a body, else none. -/
theorem rule_of_calls (id : Uuid) (service method : String) {calls : List Call}
    (h : ∀ draft, .reply draft ∈ calls → draft.opening.IsWritten) :
    let last := (lastDraft? calls).getD ⟨.json "", []⟩
    let plain := StubRule.of id "POST" (.pathEqualTo ("/" ++ service ++ "/" ++ method))
    ∃ stub reply, (of method).callAll? calls = .ok stub ∧ last.reply? = .ok reply ∧
      stub.rule id service =
        { plain with
          request := { plain.request with bodyPatterns := calls.filterMap Call.message? }
          response := reply.response } ∧
      (stub.rule id service).toJson.Tells ["response", "status"] (some (.nat 200)) ∧
      (stub.rule id service).toJson.Tells ["response", "headers", statusHeader]
        (some (.string last.opening.code.name)) ∧
      (stub.rule id service).toJson.Tells ["response", "headers", reasonHeader]
        (last.opening.reason?.map Json.string) ∧
      (stub.rule id service).toJson.Tells ["response", "fault"]
        (last.opening.fault?.map fun fault => .string fault.tag) ∧
      (stub.rule id service).toJson.Tells ["response", "body"]
        (last.opening.body?.map Json.string) ∧
      (∀ document ∈ [(stub.rule id service).toJson, (stub.rule id service).toJson.toValue.json],
        ∀ part : Reply.Part, part.IsIn document ↔ part = last.opening.part) ∧
      (stub.rule id service).toJson.Tells ["response", "delayDistribution"]
        (if last.opening.part = .body then last.delays.getLast?.map Delay.toJson else none) := by
  intro last plain
  obtain ⟨stub, hstub, hgathers⟩ := exists_callAll (of method) h
  have hwritten : last.opening.IsWritten := isWritten_lastDraft h
  obtain ⟨reply, hreply, hresponse⟩ := Draft.exists_reply hwritten
  have hlast : (stub.reply.map Reply.response).getD (Reply.json "").response = last.response := by
    rw [hgathers.response, of, Option.map_none, Option.or_none]
    exact getD_lastDraft?_response calls
  -- The method is that of the start, and what was gathered begins with nothing.
  have hrule : stub.rule id service =
      { plain with
        request := { plain.request with bodyPatterns := calls.filterMap Call.message? }
        response := reply.response } := by
    rw [rule_eq, hgathers.method, hgathers.messages, hlast, hresponse]
    rfl
  -- From here on all that matters of the rule is its response, that of the last draft.
  have htold : (stub.rule id service).response = last.opening.response last.delays.getLast? := by
    rw [hrule, hresponse, Draft.response]
  refine ⟨stub, reply, hstub, hreply, hrule, ?_, ?_, ?_, ?_, ?_, fun document hdocument part => ?_,
    ?_⟩
  · have hstatus := (stub.rule id service).tells_status
    rwa [htold] at hstatus
  · have hheader := (stub.rule id service).tells_header statusHeader
    rwa [htold, Opening.get?_statusHeader] at hheader
  · have hheader := (stub.rule id service).tells_header reasonHeader
    rwa [htold, Opening.get?_reasonHeader] at hheader
  · have hfault := (stub.rule id service).tells_fault
    rwa [htold] at hfault
  · have hkey : "body" ∈ StubResponse.Body.keys := by decide
    have hbody := (stub.rule id service).tells_body hkey
    rwa [htold, Opening.lookup_body_response] at hbody
  · -- The part is there exactly if the response carries it, and it carries one.
    rw [part.isIn_iff_carries htold hdocument, Opening.carries_iff hwritten]
  · have hdelay := (stub.rule id service).tells_delay
    rwa [htold, Opening.map_delay_response] at hdelay

/-- A failure that was set before is gone with its reason and its delay; the message is told by its
text, and of its two delays the later one. -/
theorem rule_of_calls_replaced :
    let early := Delay.fixed ⟨1, 0, by decide, by decide⟩
    let late := Delay.fixed ⟨2, 0, by decide, by decide⟩
    let calls : List Call :=
      [.requestMessage (.equalToJson "{}" []), .reply ⟨.failure .notFound "nobody", [late]⟩,
       .requestMessage (.contains "Tom"), .reply ⟨.message (.string "Tom"), [early, late]⟩]
    (∀ draft, .reply draft ∈ calls → draft.opening.IsWritten) ∧
      ∃ stub, (of "greet").callAll? calls = .ok stub ∧
        (stub.rule ⟨0, 0⟩ "Greeter").request.bodyPatterns =
          [.equalToJson "{}" [], .contains "Tom"] ∧
        (stub.rule ⟨0, 0⟩ "Greeter").toJson.Tells ["response", "headers", statusHeader]
          (some (.string "OK")) ∧
        (stub.rule ⟨0, 0⟩ "Greeter").toJson.Tells ["response", "headers", reasonHeader] none ∧
        (stub.rule ⟨0, 0⟩ "Greeter").toJson.Tells ["response", "body"]
          (some (.string "\"Tom\"")) ∧
        (∀ part : Reply.Part, part.IsIn (stub.rule ⟨0, 0⟩ "Greeter").toJson ↔ part = .body) ∧
        (stub.rule ⟨0, 0⟩ "Greeter").toJson.Tells ["response", "delayDistribution"]
          (some late.toJson) := by
  intro early late calls
  have hwritten : ∀ draft, .reply draft ∈ calls → draft.opening.IsWritten := by
    intro draft hdraft
    simp only [calls, List.mem_cons, Call.reply.injEq, reduceCtorEq, false_or, List.not_mem_nil,
      or_false] at hdraft
    -- There are two replies, and only one of them is made of data.
    rcases hdraft with rfl | rfl
    · trivial
    · exact ⟨_, rfl⟩
  obtain ⟨stub, reply, hstub, -, hrule, -, hheader, hreason, -, hbody, hpart, hdelay⟩ :=
    rule_of_calls ⟨0, 0⟩ "Greeter" "greet" hwritten
  refine ⟨hwritten, stub, hstub, ?_, hheader, hreason, hbody, hpart _ List.mem_cons_self, hdelay⟩
  rw [hrule]
  rfl

end MethodStub

end HttpStub.Grpc
