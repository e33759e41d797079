import HttpStub.Admin.Exchange
import HttpStub.Proofs.Steps

/-!
# The outcome of an operation

All operations judge a reply that has come in full by one law. The status is looked at first: any
other than the one that the operation takes for success is an error, whatever the body holds. After
that an operation either takes no notice of the body or decodes it, and then the answer is what the
body decodes to. An error that comes from a reply tells the status and the body of the reply.

`successStatus`, `ignoresBody` and `Decodes` say for each operation what the law leaves to it.
-/

namespace HttpStub

/-- `Error.isNotFound` looks at the status alone. -/
theorem Error.isNotFound_iff {e : Error} {status : Http.Status} (h : e.status? = some status) :
    e.isNotFound = true ↔ status.code = 404 := by
  obtain ⟨code⟩ := status
  simp [isNotFound, h, Http.Status.notFound]

namespace Admin

variable {ρ : Type}

namespace Operation

/-! ## What differs between operations -/

/-- The one status that an operation takes for success. -/
def successStatus : Operation ρ → Http.Status
  | .stubFor _ => .created
  | .call request _ _ => request.expected
  | _ => .ok

/-- Whether the body of a successful reply is of no interest. -/
def ignoresBody : Operation ρ → Bool
  | .stubFor _ | .deleteStub _ | .clear | .reset | .resetScenarios | .deleteAllRequests
  | .deleteRequest _ | .startRecording _ | .stopRecording => true
  | _ => false

/-- The body of the reply decodes, as the operation wants it, to the answer. -/
inductive Decodes : Operation ρ → Reply String → Answer ρ → Prop where
  | count {criteria : RequestPattern} {r : Reply String} {c : RequestCount}
      (h : RequestCount.codec.decode r.data = .ok c) :
      Decodes (.countRequests criteria) r (.count c.count)
  | verdict {criteria : RequestPattern} {n : Int64} {r : Reply String} {c : RequestCount}
      (h : RequestCount.codec.decode r.data = .ok c) :
      Decodes (.verify criteria n) r (.verdict (c.count = n))
  | listing {r : Reply String} {listing : JournalListing}
      (h : JournalListing.codec.decode r.data = .ok listing) :
      Decodes .listRequests r (.listing listing)
  | entry {id : String} {r : Reply String} {entry : ServeEvent}
      (h : ServeEvent.codec.decode r.data = .ok entry) :
      Decodes (.getRequest id) r (.entry entry)
  | found {criteria : RequestPattern} {r : Reply String} {found : FoundRequests}
      (h : FoundRequests.codec.decode r.data = .ok found) :
      Decodes (.findRequests criteria) r (.found found)
  | unmatched {r : Reply String} {found : FoundRequests}
      (h : FoundRequests.codec.decode r.data = .ok found) :
      Decodes .findUnmatched r (.found found)
  | removed {criteria : RequestPattern} {r : Reply String} {removed : RemovedEntries}
      (h : RemovedEntries.codec.decode r.data = .ok removed) :
      Decodes (.deleteRequests criteria) r (.removed removed)
  | reply {request : Request} {body : Option Data}
      {read : String → Except Json.ReadError ρ} {r : Reply String} {data : ρ}
      (h : read r.data = .ok data) :
      Decodes (.call request body read) r (.reply (r.map fun _ => data))

/-- The request of an operation expects its `successStatus`. -/
theorem request_expected (op : Operation ρ) : op.request.expected = op.successStatus := by
  cases op <;> rfl

/-- The operations without a `decoder?` are those that ignore the body. -/
theorem decoder?_eq_none_iff (op : Operation ρ) :
    op.decoder? = none ↔ op.ignoresBody = true := by
  cases op <;> simp [decoder?, ignoresBody]

/-- `Decodes` is the success of the decoder. -/
theorem decodes_iff {op : Operation ρ} {decode : Reply String → Except Json.ReadError (Answer ρ)}
    (h : op.decoder? = some decode) (r : Reply String) (answer : Answer ρ) :
    op.Decodes r answer ↔ decode r = .ok answer := by
  constructor
  · intro hanswer
    cases hanswer with
    | count hread | verdict hread | listing hread | entry hread | found hread | unmatched hread
    | removed hread | reply hread =>
      -- The operation is known now, and with it the decoder.
      cases h
      exact map_eq_ok_iff.2 ⟨_, hread, rfl⟩
  · intro hanswer
    cases op <;> simp only [decoder?, reduceCtorEq, Option.some.injEq] at h
    all_goals
      subst h
      obtain ⟨_, hread, rfl⟩ := map_eq_ok_iff.1 hanswer
    case countRequests => exact .count hread
    case verify => exact .verdict hread
    case listRequests => exact .listing hread
    case getRequest => exact .entry hread
    case findRequests => exact .found hread
    case findUnmatched => exact .unmatched hread
    case deleteRequests => exact .removed hread
    case call => exact .reply hread

/-! ## Judging a whole reply -/

variable {op : Operation ρ} {r : Reply String}

/-- `judge` makes an error of any other status, whatever the body. -/
theorem judge_unexpected (h : r.status ≠ op.successStatus) :
    (op.judge r).2 = .error (.unexpectedStatus r.status op.successStatus r.data r.headers) := by
  rw [← request_expected] at h ⊢
  simp only [judge, if_pos h]

/-- After the expected status `judge` has nothing more that can fail where the body is ignored. -/
theorem judge_ignored (h : r.status = op.successStatus) (hbody : op.ignoresBody = true) :
    (op.judge r).2 = .ok .done := by
  rw [← request_expected] at h
  simp only [judge, h, ne_eq, not_true_eq_false, if_false, (decoder?_eq_none_iff op).2 hbody]

/-- `judge` brings what the decoder of the operation makes of the body. -/
private theorem judge_decoded {decode : Reply String → Except Json.ReadError (Answer ρ)}
    (h : r.status = op.successStatus) (hdecode : op.decoder? = some decode) :
    (op.judge r).2 = (decode r).mapError fun e => .undecodable r.status r.data e.message := by
  rw [← request_expected] at h
  simp only [judge, ne_eq, h, not_true_eq_false, if_false, hdecode]
  -- The log of the two cases differs, their result is that of the decoder.
  cases decode r <;> rfl

/-- Every other operation has a `decoder?`. -/
private theorem exists_decoder (hbody : op.ignoresBody = false) :
    ∃ decode, op.decoder? = some decode := by
  refine Option.ne_none_iff_exists'.1 fun hnone => ?_
  rw [decoder?_eq_none_iff, hbody] at hnone
  cases hnone

/-- After the expected status `judge` gives the answer that the body `Decodes` to. -/
theorem judge_eq_ok_iff (h : r.status = op.successStatus) (hbody : op.ignoresBody = false)
    (answer : Answer ρ) : (op.judge r).2 = .ok answer ↔ op.Decodes r answer := by
  obtain ⟨decode, hdecode⟩ := exists_decoder hbody
  rw [judge_decoded h hdecode, decodes_iff hdecode]
  cases decode r with
  | ok decoded =>
    constructor
    all_goals
      intro hanswer
      cases hanswer
      rfl
  | error e => exact ⟨nofun, nofun⟩

/-- Where the body decodes to nothing, `judge` gives an error with status and body. -/
theorem judge_undecodable (h : r.status = op.successStatus) (hbody : op.ignoresBody = false)
    (hnone : ¬ ∃ answer, op.Decodes r answer) :
    ∃ reason, (op.judge r).2 = .error (.undecodable r.status r.data reason) := by
  obtain ⟨decode, hdecode⟩ := exists_decoder hbody
  rw [judge_decoded h hdecode]
  cases hread : decode r with
  | ok answer => exact absurd ⟨answer, (decodes_iff hdecode r answer).2 hread⟩ hnone
  | error e => exact ⟨e.message, rfl⟩

/-- An error of `judge` keeps the status and the body of the reply. -/
theorem error_of_judge {e : Error} (h : (op.judge r).2 = .error e) :
    e.status? = some r.status ∧ e.body? = some r.data := by
  -- The status is judged first, then the body, as in `judge`.
  by_cases hstatus : r.status = op.successStatus
  · cases hbody : op.ignoresBody with
    | true =>
      rw [judge_ignored hstatus hbody] at h
      cases h
    | false =>
      -- Had the body decoded, there would be no error.
      have hnone : ¬ ∃ answer, op.Decodes r answer := fun ⟨answer, hanswer⟩ => by
        rw [(judge_eq_ok_iff hstatus hbody answer).2 hanswer] at h
        cases h
      obtain ⟨reason, hreason⟩ := judge_undecodable hstatus hbody hnone
      cases hreason.symm.trans h
      exact ⟨rfl, rfl⟩
  · cases (judge_unexpected hstatus).symm.trans h
    exact ⟨rfl, rfl⟩

end Operation

/-! ## The whole exchange -/

variable {c : Client} {link : Link} {op : Operation ρ} {body : Option String}

/-- `Client.perform` sends one message for an operation whose document can be written, if that gets
to the server. -/
theorem Client.perform_eq (hbody : op.body? = .ok body) :
    c.perform link op =
      let message := c.message op.request body
      ⟨if (link message).reachesServer then [message] else [],
        .executing :: (op.conclude (link message)).1, (op.conclude (link message)).2⟩ := by
  simp only [perform, hbody]

/-- The operation is carried out by one message that has the document as its body, whatever the
client and the link. -/
def Operation.Posts (op : Operation ρ) (document : Json) : Prop :=
  ∀ (c : Client) (link : Link),
    let message := c.message op.request (some document.text)
    (c.perform link op).sent = if (link message).reachesServer then [message] else []

/-- An operation `Posts` the text of its document. -/
theorem Operation.posts_of_document? {v : Json.Value} (h : op.document? = some (.ok v)) :
    op.Posts v.json := by
  intro c link
  have hbody : op.body? = .ok (some v.json.text) := by simp only [body?, h]
  rw [Client.perform_eq hbody]

namespace Client

/-- A whole reply leads `perform` to the result that the operation judges it to have. -/
theorem perform_received (hbody : op.body? = .ok body) {status : Http.Status}
    {headers : Http.HeaderMap} {bytes : List UInt8} {latency : Duration}
    (hlink : link (c.message op.request body) = .received status headers bytes latency) :
    let text := String.ofList (Text.Utf8.decodeLossy bytes)
    (c.perform link op).sent = [c.message op.request body] ∧
      (c.perform link op).result = (op.judge ⟨text, text, status, headers, latency⟩).2 := by
  simp only [perform_eq hbody, hlink]
  exact ⟨rfl, rfl⟩

/-- The operation gets this reply as a whole. -/
def Receives (c : Client) (link : Link) (op : Operation ρ) (r : Reply String) : Prop :=
  ∃ body bytes, op.body? = .ok body ∧
    link (c.message op.request body) = .received r.status r.headers bytes r.latency ∧
    r.data = String.ofList (Text.Utf8.decodeLossy bytes) ∧ r.raw = r.data

/-- The reply of a delivery is the only one that the client `Receives`. -/
theorem receives_iff {body : Option String} (hbody : op.body? = .ok body) {status : Http.Status}
    {headers : Http.HeaderMap} {bytes : List UInt8} {latency : Duration}
    (hlink : link (c.message op.request body) = .received status headers bytes latency)
    {r : Reply String} :
    c.Receives link op r ↔
      let text := String.ofList (Text.Utf8.decodeLossy bytes)
      r = ⟨text, text, status, headers, latency⟩ := by
  constructor
  · rintro ⟨body', bytes', hbody', hlink', hdata, hraw⟩
    obtain ⟨data, raw, status', headers', latency'⟩ := r
    cases hbody.symm.trans hbody'
    cases hlink.symm.trans hlink'
    cases hdata
    cases hraw
    rfl
  · rintro rfl
    exact ⟨body, bytes, hbody, hlink, rfl, rfl⟩

/-- `perform` brings an answer only where a whole reply of the expected status decodes to it. -/
theorem perform_eq_ok_iff (hdecodes : op.ignoresBody = false) (answer : Answer ρ) :
    (c.perform link op).result = .ok answer ↔
      ∃ r, c.Receives link op r ∧ r.status = op.successStatus ∧ op.Decodes r answer := by
  cases hbody : op.body? with
  -- A document that cannot be written is not sent, so there is no reply.
  | error failure => simp [perform, Receives, hbody]
  | ok body =>
    cases hlink : link (c.message op.request body) with
    | received status headers bytes latency =>
      simp only [receives_iff hbody hlink, exists_eq_left, (perform_received hbody hlink).2]
      by_cases hstatus : status = op.successStatus
      · rw [Operation.judge_eq_ok_iff hstatus hdecodes]
        exact (and_iff_right hstatus).symm
      · rw [Operation.judge_unexpected hstatus]
        exact iff_of_false (by simp) fun h => hstatus h.1
    -- Everything but a whole reply is an error, and is received by no one.
    | unanswered why =>
      cases why <;> simp [perform_eq hbody, Operation.conclude, Receives, hbody, hlink]
    | unreachable | cut status headers why =>
      simp [perform_eq hbody, Operation.conclude, Receives, hbody, hlink]

/-- What an operation brings when a whole reply comes. One message has been sent, and the status
decides: another one than expected is an error, whatever the body; after the expected one the body
is ignored, or its decoding is the answer and its failure to decode an error. All these errors know
the body and the status of the reply, and tell whether the status is that of something not found. -/
theorem result_of_received (hbody : op.body? = .ok body) (status : Http.Status)
    (headers : Http.HeaderMap) (bytes : List UInt8) (latency : Duration)
    (hlink : link (c.message op.request body) = .received status headers bytes latency) :
    let text := String.ofList (Text.Utf8.decodeLossy bytes)
    let r : Reply String := ⟨text, text, status, headers, latency⟩
    let exchange := c.perform link op
    exchange.sent = [c.message op.request body] ∧
      (status ≠ op.successStatus →
        exchange.result = .error (.unexpectedStatus status op.successStatus text headers)) ∧
      (status = op.successStatus → op.ignoresBody = true → exchange.result = .ok .done) ∧
      (status = op.successStatus → op.ignoresBody = false →
        (∀ answer, exchange.result = .ok answer ↔ op.Decodes r answer) ∧
          ((¬ ∃ answer, op.Decodes r answer) →
            ∃ reason, exchange.result = .error (.undecodable status text reason))) ∧
      ∀ e, exchange.result = .error e →
        e.body? = some text ∧ e.status? = some status ∧
          (e.isNotFound = true ↔ status.code = 404) := by
  intro text r exchange
  obtain ⟨hsent, hresult⟩ : exchange.sent = [c.message op.request body] ∧
      exchange.result = (op.judge r).2 := perform_received hbody hlink
  -- The transport is done with; what is left is how the operation judges the reply.
  rw [hresult]
  refine ⟨hsent, fun h => Operation.judge_unexpected h, fun h => Operation.judge_ignored h,
    fun h hdecodes => ?_, fun e he => ?_⟩
  · exact ⟨Operation.judge_eq_ok_iff h hdecodes, Operation.judge_undecodable h hdecodes⟩
  · obtain ⟨hstatus, htext⟩ := Operation.error_of_judge he
    exact ⟨htext, hstatus, Error.isNotFound_iff hstatus⟩

/-- What is expected here is that nothing is found, but the body of the reply is not even text. -/
theorem result_of_received_notFound :
    let base : Url := ⟨⟨"http"⟩, [], [], some (.ipv6 [0, 0, 0, 0, 0, 0, 0, 1]), none,
      .segments [], none, none⟩
    let c : Client := ⟨base, .empty, none⟩
    let op : Operation Json.Value :=
      .call ((Request.of "GET" "files").expecting .notFound) none Json.parseValue
    let link : Link := fun _ => .received .notFound .empty [0xFF] (.ofMillis 5)
    op.body? = .ok none ∧
      link (c.message op.request none) = .received .notFound .empty [0xFF] (.ofMillis 5) ∧
      ∃ reason, (c.perform link op).result = .error (.undecodable .notFound "\uFFFD" reason) := by
  intro base c op link
  have hbody : op.body? = .ok none := rfl
  have hlink : link (c.message op.request none) =
      .received .notFound .empty [0xFF] (.ofMillis 5) := rfl
  have htext : String.ofList (Text.Utf8.decodeLossy [0xFF]) = "\uFFFD" := by decide +kernel
  have hread : (Json.parseValue "\uFFFD").isOk = false := by decide +kernel
  have h := result_of_received hbody .notFound .empty [0xFF] (.ofMillis 5) hlink
  rw [htext] at h
  refine ⟨hbody, hlink, (h.2.2.2.1 rfl rfl).2 ?_⟩
  -- The expected status does not help: there is no document that the body could be.
  rintro ⟨answer, hanswer⟩
  change Operation.Decodes (.call _ none _) _ _ at hanswer
  cases hanswer with
  | reply hvalue =>
    rw [hvalue] at hread
    cases hread

end Client

end Admin

end HttpStub
