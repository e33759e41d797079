import HttpStub.Proofs.Json.Documents
import HttpStub.Proofs.Json.Members
import HttpStub.Proofs.Response.Base64
import HttpStub.Response.Basic

/-!
# The wire format of responses

Of several bodies of a response one is served, and it is the one that is written: a response has at
most one member for bodies, and reading this member gives the body back. The other members stand
under keys of their own, so the text of a response without floating point tells what is served and
nothing else; it is the same for responses that differ only in bodies behind the one that is served.
-/

namespace HttpStub

/-! ## Without floating point -/

/-- The delay has no parameter in floating point. -/
def Delay.isFloatFree : Delay → Bool
  | .fixedAt _ | .uniformBetween _ _ => true
  | .logNormalAround _ _ => false

/-- Neither the delay nor a JSON body holds a floating-point number. -/
def StubResponse.isFloatFree (r : StubResponse) : Bool :=
  r.delay.all Delay.isFloatFree && r.jsonBody.all fun value => value.json.isWhole

/-- `Json.nat` makes different documents of different numbers. -/
theorem Json.nat_inj {m n : Nat} : Json.nat m = Json.nat n ↔ m = n := by
  rw [Json.nat, Json.nat, Json.number.injEq, Json.Number.int.injEq, Int.natCast_inj]

/-- A `UInt64` is written as an integer of 64 bits. -/
theorem Json.isWhole_uint64 (n : UInt64) : (Json.nat n.toNat).isWhole = true :=
  isWhole_nat n.toNat_lt

/-- `Delay.toJson` writes no other numbers where nothing is in floating point. -/
theorem Delay.isWhole_toJson {d : Delay} (h : d.isFloatFree = true) : d.toJson.isWhole = true := by
  cases d with
  | fixedAt milliseconds => simp [toJson, Json.isWhole_uint64]
  | logNormalAround median sigma => cases h
  | uniformBetween lower upper => simp [toJson, Json.isWhole_uint64]

/-- So it is with the member of a delay that may not be there. -/
theorem Delay.membersWhole_member? (key : String) {d : Option Delay}
    (h : d.all isFloatFree = true) : Json.membersWhole (Json.member? key toJson d) = true := by
  refine Json.membersWhole_member? key fun x hx => isWhole_toJson ?_
  rw [Option.mem_def.1 hx] at h
  exact h

/-- `Dribble.toJson` writes no others either. -/
theorem Dribble.isWhole_toJson (d : Dribble) : d.toJson.isWhole = true := by
  have hchunks : (Json.nat d.chunks.toNat).isWhole = true :=
    Json.isWhole_nat (Nat.lt_trans d.chunks.toNat_lt (by decide))
  simp [toJson, Json.isWhole_uint64, hchunks]

namespace StubResponse

/-- The `body` that is served holds a number only if it is JSON. -/
private theorem membersWhole_body {r : StubResponse} (h : r.isFloatFree = true) :
    Json.membersWhole r.body.member = true := by
  cases hbody : r.body with
  | none => rfl
  | literal text => rfl
  | binary bytes => rfl
  | file name => rfl
  | json value =>
    have hvalue : r.jsonBody = some value := by
      unfold body at hbody
      split at hbody <;> simp_all
    simp only [isFloatFree, hvalue, Bool.and_eq_true, Option.all_some] at h
    simp [Body.member, h.2]

/-- The `members` of a response hold only integers of 64 bits, where neither delay nor body is in
floating point. -/
theorem membersWhole_members {r : StubResponse} (h : r.isFloatFree = true) :
    Json.membersWhole r.members = true := by
  -- The delay and the body are the only parts that may be in floating point.
  have hdelay : r.delay.all Delay.isFloatFree = true := (Bool.and_eq_true _ _ ▸ h).1
  have hstatus : (Json.nat r.status.toNat).isWhole = true :=
    Json.isWhole_nat (Nat.lt_trans r.status.toNat_lt (by decide))
  have hstring : ∀ e : String × String, (Json.string e.2).isWhole = true := fun _ => rfl
  have hfault : Json.membersWhole
      (Json.member? "fault" (fun fault => .string fault.tag) r.fault) = true :=
    Json.membersWhole_member? _ fun _ _ => rfl
  have htransformers : Json.membersWhole
      (Json.listMember "transformers" .string r.transformers) = true :=
    Json.membersWhole_listMember _ fun _ _ => rfl
  simp [members, hstatus, hstring, hfault, htransformers, membersWhole_body h,
    Delay.membersWhole_member? _ hdelay, Json.membersWhole_member?, Json.membersWhole_dictMember,
    Dribble.isWhole_toJson]

/-! ## The body -/

/-- The keys under which bodies stand. -/
def Body.keys : List String :=
  ["body", "base64Body", "bodyFileName", "jsonBody"]

/-- The first body that has been set: a literal one, a binary one that is not empty, a file or a
JSON body. -/
def firstSet (r : StubResponse) : Body :=
  let bodies := [r.literalBody.map .literal,
    (r.binaryBody.filter fun bytes => !bytes.isEmpty).map .binary, r.bodyFile.map .file,
    r.jsonBody.map .json]
  (bodies.findSome? id).getD .none

/-- `body`, which is served, is the first that has been set. -/
theorem body_eq_firstSet (r : StubResponse) : r.body = r.firstSet := by
  obtain ⟨status, literal, binary, file, json⟩ := r
  cases literal with
  | some text => rfl
  | none =>
    rcases binary with _ | _ | ⟨byte, bytes⟩
    -- Without bytes to be sent the file or else the JSON body is the next.
    · cases file <;> cases json <;> rfl
    · cases file <;> cases json <;> rfl
    · rfl

/-- Reads the body off an object that has at most one member for bodies. -/
def Body.read? (members : List (String × Json)) : Option Body :=
  match List.lookup "body" members, List.lookup "base64Body" members,
    List.lookup "bodyFileName" members, List.lookup "jsonBody" members with
  | .none, .none, .none, .none => some .none
  | some (.string text), .none, .none, .none => some (.literal text)
  | .none, some (.string letters), .none, .none =>
    (Base64.decode? letters.toList).map .binary
  | .none, .none, some (.string name), .none => some (.file name)
  | .none, .none, .none, some j => some (.json j.toValue)
  | _, _, _, _ => .none

/-- The members behind the body, each of them optional. -/
private def trimmings (r : StubResponse) : List (String × Json) :=
  Json.dictMember "headers" .string r.headers ++
    Json.member? "delayDistribution" Delay.toJson r.delay ++
    Json.member? "chunkedDribbleDelay" Dribble.toJson r.dribble ++
    Json.member? "fault" (fun fault => .string fault.tag) r.fault ++
    Json.listMember "transformers" .string r.transformers ++
    Json.dictMember "transformerParameters" .string r.transformerParameters

/-- `members` are the status, the one body and the `trimmings`. -/
private theorem members_eq (r : StubResponse) :
    r.members = ("status", .nat r.status.toNat) :: (r.body.member ++ r.trimmings) := by
  simp [members, trimmings]

/-- None of the `trimmings` stands under a key for bodies. -/
private theorem lookup_trimmings_of_mem_keys (r : StubResponse) {key : String}
    (hkey : key ∈ Body.keys) : List.lookup key r.trimmings = none := by
  simp only [Body.keys, List.mem_cons, List.not_mem_nil, or_false] at hkey
  rcases hkey with rfl | rfl | rfl | rfl <;>
    simp (disch := decide) only [trimmings, List.lookup_append, Json.lookup_member?_of_ne,
      Json.lookup_listMember_of_ne, Json.lookup_dictMember_of_ne, Option.or_none]

/-- Under a key for bodies stands what `Body.member` has there. -/
theorem lookup_members (r : StubResponse) {key : String} (hkey : key ∈ Body.keys) :
    List.lookup key r.members = List.lookup key r.body.member := by
  have hstatus : key ≠ "status" := by
    rintro rfl
    exact absurd hkey (by decide)
  rw [members_eq, Entries.lookup_cons, if_neg hstatus, List.lookup_append,
    r.lookup_trimmings_of_mem_keys hkey, Option.or_none]

/-- So `List.lookup` finds it from behind, because nothing is written twice. -/
private theorem lookup_reverse_members (r : StubResponse) {key : String} (hkey : key ∈ Body.keys) :
    List.lookup key r.members.reverse = List.lookup key r.body.member := by
  have hstatus : key ≠ "status" := by
    rintro rfl
    exact absurd hkey (by decide)
  have hbody : r.body.member.reverse = r.body.member := by cases r.body <;> rfl
  rw [members_eq, List.reverse_cons, List.reverse_append, List.lookup_append, List.lookup_append,
    Entries.lookup_reverse_eq_none (r.lookup_trimmings_of_mem_keys hkey), hbody, Option.none_or]
  simp [Entries.lookup_cons, hstatus]

/-- `Json.toValue` gives back a value for its own document. -/
private theorem toValue_json (value : Json.Value) : value.json.toValue = value := by
  obtain ⟨j, hj⟩ := value
  simp only [Json.toValue, hj]

/-- `Body.read?` reads a body off an object that has just the member of the body. -/
theorem Body.read?_of_lookup {b : Body} {members : List (String × Json)}
    (h : ∀ key ∈ Body.keys, List.lookup key members = List.lookup key b.member) :
    Body.read? members = some b := by
  have hbody := h "body" (by decide)
  have hbinary := h "base64Body" (by decide)
  have hfile := h "bodyFileName" (by decide)
  have hjson := h "jsonBody" (by decide)
  rw [Body.read?, hbody, hbinary, hfile, hjson]
  -- Under its own key a body is found as it was written, and nothing is found under the others.
  cases b <;>
    simp [Body.member, Entries.lookup_cons, Base64.decode?_encode, toValue_json]

/-- `Body.read?` reads the body that is served off the members as they are written. -/
theorem read?_members (r : StubResponse) : Body.read? r.members = some r.body :=
  Body.read?_of_lookup fun _ hkey => r.lookup_members hkey

/-- What stands in the `member` of a body is in canonical form. -/
theorem Body.map_canonical_lookup_member (b : Body) (key : String) :
    (List.lookup key b.member).map Json.canonical = List.lookup key b.member := by
  -- Strings are canonical, and a JSON body is a value.
  cases b with
  | none => rfl
  | literal text =>
    by_cases h : key = "body" <;> simp [member, Entries.lookup_cons, h, Json.canonical]
  | binary bytes =>
    by_cases h : key = "base64Body" <;> simp [member, Entries.lookup_cons, h, Json.canonical]
  | file name =>
    by_cases h : key = "bodyFileName" <;> simp [member, Entries.lookup_cons, h, Json.canonical]
  | json value =>
    by_cases h : key = "jsonBody" <;> simp [member, Entries.lookup_cons, h, value.isCanonical]

/-- `Body.read?` also reads the body off the value of the response, which lists its members by key.
-/
theorem read?_value {r : StubResponse} {sorted : List (String × Json)}
    (h : r.toJson.toValue.json = .object sorted) : Body.read? sorted = some r.body := by
  refine Body.read?_of_lookup fun key hkey => ?_
  -- The value keeps the last member of each key, and its values are canonical.
  rw [Json.lookup_canonical h, r.lookup_reverse_members hkey, Body.map_canonical_lookup_member]

/-- At most one member has a key among `Body.keys`. -/
theorem length_filter_keys_le (r : StubResponse) :
    (r.members.filter fun m => m.1 ∈ Body.keys).length ≤ 1 := by
  have htrimmings : (r.trimmings.filter fun m => m.1 ∈ Body.keys) = [] := by
    refine List.filter_eq_nil_iff.2 fun m hm hkey => ?_
    have hnone := r.lookup_trimmings_of_mem_keys (of_decide_eq_true hkey)
    exact bne_iff_ne.1 (List.lookup_eq_none_iff.1 hnone m hm) rfl
  have hstatus : ¬ "status" ∈ Body.keys := by decide
  rw [members_eq, List.filter_cons, List.filter_append, htrimmings, List.append_nil]
  simp only [hstatus, decide_false, Bool.false_eq_true, if_false]
  -- Of the body there is one member or none.
  refine Nat.le_trans (List.length_filter_le _ _) ?_
  cases r.body <;> simp [Body.member]

/-! ## What is served -/

/-- The responses serve the same in the same way; bodies behind the one that is served do not
matter. -/
structure ServesLike (a b : StubResponse) : Prop where
  status : a.status = b.status
  body : a.body = b.body
  headers : a.headers = b.headers
  delay : a.delay = b.delay
  dribble : a.dribble = b.dribble
  fault : a.fault = b.fault
  transformers : a.transformers = b.transformers
  transformerParameters : a.transformerParameters = b.transformerParameters

/-- `toJson` writes alike what is served alike. -/
theorem ServesLike.toJson_eq {a b : StubResponse} (h : a.ServesLike b) : a.toJson = b.toJson := by
  simp only [toJson, members, h.status, h.body, h.headers, h.delay, h.dribble, h.fault,
    h.transformers, h.transformerParameters]

/-- Each `NetworkFault` has a name of its own. -/
private theorem faultJson_inj {f g : NetworkFault} (h : Json.string f.tag = .string g.tag) :
    f = g := by
  cases f <;> cases g <;> first | rfl | exact absurd (Json.string.inj h) (by decide)

/-- `Dribble.toJson` tells both numbers of a dribble. -/
private theorem dribbleJson_inj {d e : Dribble} (h : d.toJson = e.toJson) : d = e := by
  obtain ⟨chunks, total⟩ := d
  obtain ⟨chunks', total'⟩ := e
  simp only [Dribble.toJson, Json.object.injEq, List.cons.injEq, Prod.mk.injEq, true_and,
    and_true, Json.nat_inj, UInt32.toNat_inj, UInt64.toNat_inj] at h
  rw [h.1, h.2]

/-- `Delay.toJson` tells delays without floating point apart. -/
private theorem delayJson_inj {d e : Delay} (hd : d.isFloatFree = true)
    (he : e.isFloatFree = true) (h : d.toJson = e.toJson) : d = e := by
  cases d with
  | logNormalAround median sigma => cases hd
  | fixedAt m =>
    cases e with
    | logNormalAround median sigma => cases he
    | fixedAt n => simpa [Delay.toJson, Json.nat_inj, UInt64.toNat_inj] using h
    | uniformBetween lower upper => simp [Delay.toJson] at h
  | uniformBetween lower upper =>
    cases e with
    | logNormalAround median sigma => cases he
    -- The name of the distribution tells the two kinds apart.
    | fixedAt n => simp [Delay.toJson] at h
    | uniformBetween lower' upper' => simpa [Delay.toJson, Json.nat_inj, UInt64.toNat_inj] using h

/-- So the member of a delay tells the delay. -/
private theorem delay_eq_of_lookup {key : String} {d e : Option Delay}
    (hd : d.all Delay.isFloatFree = true) (he : e.all Delay.isFloatFree = true)
    (h : List.lookup key (Json.member? key Delay.toJson d) =
      List.lookup key (Json.member? key Delay.toJson e)) : d = e := by
  cases d with
  | none => cases e <;> simp_all [Json.member?]
  | some x =>
    cases e with
    | none => simp [Json.member?] at h
    | some y =>
      have hxy : x.toJson = y.toJson := by simpa [Json.member?, Entries.lookup_cons] using h
      rw [delayJson_inj hd he hxy]

/-- A response without floating point `ServesLike` any other that is written alike. -/
theorem servesLike_of_toJson_eq {a b : StubResponse} (ha : a.isFloatFree = true)
    (hb : b.isFloatFree = true) (h : a.toJson = b.toJson) : a.ServesLike b := by
  have hmembers : a.members = b.members := Json.object.inj h
  -- Both bodies are read off the same members.
  have hbody : a.body = b.body := by
    have hread := a.read?_members
    rw [hmembers, b.read?_members] at hread
    exact (Option.some.inj hread).symm
  rw [members_eq, members_eq, hbody] at hmembers
  obtain ⟨hfirst, hrest⟩ := List.cons.inj hmembers
  have hstatus : a.status = b.status :=
    UInt16.toNat_inj.1 (Json.nat_inj.1 (Prod.mk.inj hfirst).2)
  have htrimmings : a.trimmings = b.trimmings := List.append_cancel_left hrest
  have hheaders := congrArg (List.lookup "headers") htrimmings
  have hdelay := congrArg (List.lookup "delayDistribution") htrimmings
  have hdribble := congrArg (List.lookup "chunkedDribbleDelay") htrimmings
  have hfault := congrArg (List.lookup "fault") htrimmings
  have htransformers := congrArg (List.lookup "transformers") htrimmings
  have hparameters := congrArg (List.lookup "transformerParameters") htrimmings
  -- Of all the members only the one under the key is left.
  simp (disch := decide) only [trimmings, List.lookup_append, Json.lookup_member?_of_ne,
    Json.lookup_listMember_of_ne, Json.lookup_dictMember_of_ne, Option.or_none, Option.none_or]
    at hheaders hdelay hdribble hfault htransformers hparameters
  have hdict : ∀ {d e : Dict String}, d.map id = e.map id → d = e := fun hde =>
    Dict.ext_entries (by simpa [Dict.entries_map] using congrArg Dict.entries hde)
  exact {
    status := hstatus
    body := hbody
    headers := hdict (Json.map_eq_of_lookup_dictMember (fun _ _ => Json.string.inj) hheaders)
    delay := delay_eq_of_lookup (Bool.and_eq_true _ _ ▸ ha).1 (Bool.and_eq_true _ _ ▸ hb).1 hdelay
    dribble := by
      simpa using Json.map_eq_of_lookup_member? (f := id) (fun _ _ => dribbleJson_inj) hdribble
    fault := by
      simpa using Json.map_eq_of_lookup_member? (f := id) (fun _ _ => faultJson_inj) hfault
    transformers := by
      simpa using Json.map_eq_of_lookup_listMember (f := id) (fun _ _ => Json.string.inj)
        htransformers
    transformerParameters :=
      hdict (Json.map_eq_of_lookup_dictMember (fun _ _ => Json.string.inj) hparameters) }

/-- A response is written with the one body that is served, the first that has been set: no two
members are for bodies, and the body is read off the members as they are written and off those of
the value. The text of a response without floating point tells what is served and how, and nothing
else. -/
theorem text_toJson_eq_iff_servesLike :
    (∀ (r : StubResponse) (members sorted : List (String × Json)), r.toJson = .object members →
        r.toJson.toValue.json = .object sorted →
        r.body = r.firstSet ∧ (members.filter fun m => m.1 ∈ Body.keys).length ≤ 1 ∧
          Body.read? members = some r.body ∧ Body.read? sorted = some r.body) ∧
      (∀ a b : StubResponse, a.ServesLike b → a.toJson.text = b.toJson.text) ∧
      ∀ a b : StubResponse, a.isFloatFree = true → b.isFloatFree = true →
        (a.toJson.text = b.toJson.text ↔ a.ServesLike b) := by
  refine ⟨fun r members sorted hmembers hsorted => ?_, fun a b h => by rw [h.toJson_eq],
    fun a b ha hb => ?_⟩
  · obtain rfl : r.members = members := Json.object.inj hmembers
    exact ⟨r.body_eq_firstSet, r.length_filter_keys_le, r.read?_members, read?_value hsorted⟩
  · have hwhole : ∀ {r : StubResponse}, r.isFloatFree = true → r.toJson.isWhole = true :=
      membersWhole_members
    rw [Json.text_inj (hwhole ha) (hwhole hb)]
    exact ⟨servesLike_of_toJson_eq ha hb, ServesLike.toJson_eq⟩

/-- A literal body, even an empty one, hides the other bodies; an empty binary one hides none. -/
theorem text_toJson_eq_iff_servesLike_hidden :
    let several := ok.applyAll [.binaryBody [104, 105], .bodyFile "a", .literalBody ""]
    let plain := ok.applyAll [.literalBody ""]
    let binary := ok.applyAll [.binaryBody [104, 105]]
    (several.isFloatFree = true ∧ plain.isFloatFree = true ∧ binary.isFloatFree = true) ∧
      several.toJson.text = plain.toJson.text ∧ several.toJson.text ≠ binary.toJson.text := by
  have hsame : (ok.applyAll [.binaryBody [104, 105], .bodyFile "a", .literalBody ""]).ServesLike
      (ok.applyAll [.literalBody ""]) := ⟨rfl, rfl, rfl, rfl, rfl, rfl, rfl, rfl⟩
  refine ⟨by decide, text_toJson_eq_iff_servesLike.2.1 _ _ hsame, fun h => ?_⟩
  have hserves := (text_toJson_eq_iff_servesLike.2.2 _ _ (by decide) (by decide)).1 h
  exact absurd hserves.body (by decide)

end StubResponse

end HttpStub
