import HttpStub.Grpc.Stub
import HttpStub.Matcher.Build
import HttpStub.Proofs.Steps
import HttpStub.Proofs.Json.Documents

/-!
# The two ways of writing data

Data is written as a text in its own order, or as a value with members by name. Without floating
point both ways describe the same document: the value is what the text is read back as. They part
only over integers, of which a text can hold any and a value those of 64 bits. So whatever can be
the JSON body of a response can also be compared to a request and sent as a message.
-/

namespace HttpStub

namespace Data

mutual

/-- No part of the data is in floating point; the numbers of a value are integers of 64 bits. -/
def isFloatFree : Data → Bool
  | .float _ => false
  | .value v => v.json.isWhole
  | .sequence items => itemsFloatFree items
  | .map entries => entriesFloatFree entries
  | .null | .bool _ | .integer _ | .string _ | .failing _ => true

/-- No item is in floating point, as `isFloatFree` has it. -/
def itemsFloatFree : List Data → Bool
  | [] => true
  | d :: ds => isFloatFree d && itemsFloatFree ds

/-- Nothing in a map is in floating point, as `isFloatFree` has it. -/
def entriesFloatFree : List (Key × Data) → Bool
  | [] => true
  | (_, d) :: es => isFloatFree d && entriesFloatFree es

end

mutual

/-- The integers that are written as numbers. Those of a value have 64 bits in any case, and keys
are written as strings. -/
def integers : Data → List Int
  | .integer n => [n]
  | .sequence items => itemIntegers items
  | .map entries => entryIntegers entries
  | .null | .bool _ | .float _ | .string _ | .value _ | .failing _ => []

/-- The `integers` of the items. -/
def itemIntegers : List Data → List Int
  | [] => []
  | d :: ds => integers d ++ itemIntegers ds

/-- The `integers` that a map holds under its keys. -/
def entryIntegers : List (Key × Data) → List Int
  | [] => []
  | (_, d) :: es => integers d ++ entryIntegers es

end

/-! ## The value is that of the document -/

mutual

/-- Data is written by `valueJson?` exactly if `document?` writes it and the document is whole. The
value is then the canonical form of the document. -/
theorem valueJson?_eq_ok_iff : (d : Data) → d.isFloatFree = true → {j : Json} →
    (d.valueJson? = .ok j ↔ ∃ doc, d.document? = .ok doc ∧ doc.isWhole = true ∧ doc.canonical = j)
  | .null, _, j => by simp [valueJson?, document?, Json.isWhole, Json.canonical]
  | .bool b, _, j => by simp [valueJson?, document?, Json.isWhole, Json.canonical]
  | .string s, _, j => by simp [valueJson?, document?, Json.canonical]
  | .failing reason, _, j => by simp [valueJson?, document?]
  -- The one case the hypothesis is for: the two ways write a double differently.
  | .float x, h, j => by cases h
  | .value v, h, j => by
    have hwhole : v.json.isWhole = true := h
    simp [valueJson?, document?, hwhole, v.isCanonical]
  -- The only data that has a document and no value: an integer of more than 64 bits.
  | .integer n, _, j => by
    by_cases hn : fitsWord n = true <;>
      simp [valueJson?, document?, hn, Json.int, Json.isWhole, Json.canonical]
  | .sequence items, h, j => by
    simp only [valueJson?, document?, bind_eq_ok_iff, valueItems?_eq_ok_iff items h]
    constructor
    · rintro ⟨_, ⟨docs, hdocs, hwhole, rfl⟩, hj⟩
      exact ⟨.array docs, ⟨docs, hdocs, rfl⟩, hwhole, Except.ok.inj hj⟩
    · rintro ⟨_, ⟨docs, hdocs, hdoc⟩, hwhole, rfl⟩
      cases hdoc
      exact ⟨_, ⟨docs, hdocs, hwhole, rfl⟩, rfl⟩
  | .map entries, h, j => by
    simp only [valueJson?, document?, bind_eq_ok_iff, valueMembers?_eq_ok_iff entries h]
    constructor
    · rintro ⟨_, ⟨docs, hdocs, hwhole, rfl⟩, hj⟩
      exact ⟨.object docs, ⟨docs, hdocs, rfl⟩, hwhole, Except.ok.inj hj⟩
    · rintro ⟨_, ⟨docs, hdocs, hdoc⟩, hwhole, rfl⟩
      cases hdoc
      exact ⟨_, ⟨docs, hdocs, hwhole, rfl⟩, rfl⟩

/-- The same of `valueItems?`, item by item. -/
theorem valueItems?_eq_ok_iff : (ds : List Data) → itemsFloatFree ds = true → {js : List Json} →
    (valueItems? ds = .ok js ↔ ∃ docs, documentItems? ds = .ok docs ∧ Json.areWhole docs = true ∧
      Json.canonicalItems docs = js)
  | [], _, js => by simp [valueItems?, documentItems?, Json.areWhole, Json.canonicalItems]
  | d :: ds, h, js => by
    obtain ⟨hd, hds⟩ := Bool.and_eq_true_iff.1 h
    simp only [valueItems?, documentItems?, bind_eq_ok_iff, valueJson?_eq_ok_iff d hd,
      valueItems?_eq_ok_iff ds hds]
    constructor
    · rintro ⟨_, ⟨doc, hdoc, hwhole, rfl⟩, _, ⟨docs, hdocs, hwholes, rfl⟩, hjs⟩
      exact ⟨doc :: docs, ⟨doc, hdoc, docs, hdocs, rfl⟩, Bool.and_eq_true_iff.2 ⟨hwhole, hwholes⟩,
        Except.ok.inj hjs⟩
    · rintro ⟨_, ⟨doc, hdoc, docs, hdocs, hcons⟩, hwhole, rfl⟩
      cases hcons
      obtain ⟨hwhole, hwholes⟩ := Bool.and_eq_true_iff.1 hwhole
      exact ⟨_, ⟨doc, hdoc, hwhole, rfl⟩, _, ⟨docs, hdocs, hwholes, rfl⟩, rfl⟩

/-- The same of `valueMembers?`, which puts the members of the value in one by one: where it starts
from `gathered`, it ends with what the canonical members of the document add to this. -/
theorem valueMembers?_eq_ok_iff : (es : List (Key × Data)) → entriesFloatFree es = true →
    {gathered ms : List (String × Json)} →
    (valueMembers? gathered es = .ok ms ↔ ∃ docs, documentMembers? es = .ok docs ∧
      Json.membersWhole docs = true ∧
      (Json.canonicalMembers docs).foldl (fun sorted m => Entries.insert m.1 m.2 sorted) gathered =
        ms)
  -- The induction is on the entries, with what is already gathered left open: each entry that is
  -- read is put in before the next one is looked at.
  | [], _, gathered, ms => by simp [valueMembers?, documentMembers?, Json.canonicalMembers]
  | (k, d) :: es, h, gathered, ms => by
    obtain ⟨hd, hes⟩ := Bool.and_eq_true_iff.1 h
    simp only [valueMembers?, documentMembers?, bind_eq_ok_iff, valueJson?_eq_ok_iff d hd,
      valueMembers?_eq_ok_iff es hes]
    constructor
    · rintro ⟨name, hname, _, ⟨doc, hdoc, hwhole, rfl⟩, docs, hdocs, hwholes, hms⟩
      exact ⟨(name, doc) :: docs, ⟨name, hname, doc, hdoc, docs, hdocs, rfl⟩,
        Bool.and_eq_true_iff.2 ⟨hwhole, hwholes⟩, hms⟩
    · rintro ⟨_, ⟨name, hname, doc, hdoc, docs, hdocs, hcons⟩, hwhole, hms⟩
      cases hcons
      obtain ⟨hwhole, hwholes⟩ := Bool.and_eq_true_iff.1 hwhole
      exact ⟨name, hname, _, ⟨doc, hdoc, hwhole, rfl⟩, docs, hdocs, hwholes, hms⟩

end

/-! ## Integers -/

mutual

/-- The document of `document?` is whole if the `integers` of the data are those of 64 bits. -/
theorem isWhole_document?_iff : (d : Data) → d.isFloatFree = true → {doc : Json} →
    d.document? = .ok doc → (doc.isWhole = true ↔ ∀ n ∈ d.integers, fitsWord n = true)
  | .null, _, _, hdoc => by
    cases hdoc
    simp [integers, Json.isWhole]
  | .bool b, _, _, hdoc => by
    cases hdoc
    simp [integers, Json.isWhole]
  | .string s, _, _, hdoc => by
    cases hdoc
    simp [integers]
  | .integer n, _, _, hdoc => by
    cases hdoc
    simp [integers, Json.int, Json.isWhole]
  -- A value without floating point is whole, and counts for no integer.
  | .value v, h, _, hdoc => by
    cases hdoc
    have hwhole : v.json.isWhole = true := h
    simp [integers, hwhole]
  | .float x, h, _, _ => by cases h
  | .failing reason, _, _, hdoc => by cases hdoc
  | .sequence items, h, _, hdoc => by
    obtain ⟨docs, hdocs, hdoc⟩ := bind_eq_ok_iff.1 hdoc
    cases hdoc
    exact areWhole_documentItems?_iff items h hdocs
  | .map entries, h, _, hdoc => by
    obtain ⟨docs, hdocs, hdoc⟩ := bind_eq_ok_iff.1 hdoc
    cases hdoc
    exact membersWhole_documentMembers?_iff entries h hdocs

/-- The same of the items that `documentItems?` gives. -/
theorem areWhole_documentItems?_iff : (ds : List Data) → itemsFloatFree ds = true →
    {docs : List Json} → documentItems? ds = .ok docs →
      (Json.areWhole docs = true ↔ ∀ n ∈ itemIntegers ds, fitsWord n = true)
  | [], _, _, hdocs => by
    cases hdocs
    simp [itemIntegers, Json.areWhole]
  | d :: ds, h, _, hdocs => by
    obtain ⟨hd, hds⟩ := Bool.and_eq_true_iff.1 h
    obtain ⟨doc, hdoc, hdocs⟩ := bind_eq_ok_iff.1 hdocs
    obtain ⟨docs, hrest, hcons⟩ := bind_eq_ok_iff.1 hdocs
    cases hcons
    rw [Json.areWhole, Bool.and_eq_true, isWhole_document?_iff d hd hdoc,
      areWhole_documentItems?_iff ds hds hrest, itemIntegers, List.forall_mem_append]

/-- The same of the members that `documentMembers?` gives. Keys do not count: they are strings. -/
theorem membersWhole_documentMembers?_iff : (es : List (Key × Data)) →
    entriesFloatFree es = true → {docs : List (String × Json)} → documentMembers? es = .ok docs →
      (Json.membersWhole docs = true ↔ ∀ n ∈ entryIntegers es, fitsWord n = true)
  | [], _, _, hdocs => by
    cases hdocs
    simp [entryIntegers]
  | (k, d) :: es, h, _, hdocs => by
    obtain ⟨hd, hes⟩ := Bool.and_eq_true_iff.1 h
    obtain ⟨name, hname, hdocs⟩ := bind_eq_ok_iff.1 hdocs
    obtain ⟨doc, hdoc, hdocs⟩ := bind_eq_ok_iff.1 hdocs
    obtain ⟨docs, hrest, hcons⟩ := bind_eq_ok_iff.1 hdocs
    cases hcons
    rw [Json.membersWhole, Bool.and_eq_true, isWhole_document?_iff d hd hdoc,
      membersWhole_documentMembers?_iff es hes hrest, entryIntegers, List.forall_mem_append]

end

/-- An integer fails `fitsWord` if it is below all signed or above all unsigned words of 64 bits. -/
theorem fitsWord_eq_false_iff {n : Int} :
    fitsWord n = false ↔ n < -0x8000000000000000 ∨ 0x10000000000000000 ≤ n := by
  -- Signed words bound the range from below, unsigned ones from above.
  rw [← Bool.not_eq_true, fitsWord, Bool.and_eq_true, decide_eq_true_eq, decide_eq_true_eq]
  omega

/-! ## The operations that write data -/

variable {d : Data} {flags : List EqualFlag} {text : String}

/-- All operations that write the data as a text succeed, and what they make holds this text. -/
structure IsWritten (d : Data) (flags : List EqualFlag) (text : String) : Prop where
  /-- The comparison of a request body. -/
  comparison : Matcher.equalToData d flags = .ok (.equalToJson text flags)
  /-- The message that a call is compared to. -/
  message : Grpc.equalToMessage d = .ok (.equalToJson text [])
  /-- The message of a reply, which becomes a literal body. -/
  reply : ∃ reply, Grpc.Reply.message d = .ok reply ∧ reply.response.body = .literal text

/-- None of the operations of `IsWritten` succeeds. -/
structure IsUnwritten (d : Data) (flags : List EqualFlag) : Prop where
  comparison : ∃ e, Matcher.equalToData d flags = .error e
  message : ∃ e, Grpc.equalToMessage d = .error e
  reply : ∃ e, Grpc.Reply.message d = .error e

/-- Where `document?` succeeds, each operation holds the text of the document. -/
theorem isWritten_of_document? {doc : Json} (h : d.document? = .ok doc) (flags : List EqualFlag) :
    d.IsWritten flags doc.text := by
  have htext : d.text? = .ok doc.text := by
    rw [text?, h]
    rfl
  -- Each operation is a match on the text.
  refine ⟨?_, ?_, Grpc.Reply.json doc.text, ?_, rfl⟩
  · simp only [Matcher.equalToData, htext]
  · simp only [Grpc.equalToMessage, htext]
  · simp only [Grpc.Reply.message, htext]

/-- Where `document?` fails, each operation passes its failure on. -/
theorem isUnwritten_of_document? {failure : Failure} (h : d.document? = .error failure)
    (flags : List EqualFlag) : d.IsUnwritten flags := by
  have htext : d.text? = .error failure := by
    rw [text?, h]
    rfl
  refine ⟨?_, ?_, ?_⟩
  · simp [Matcher.equalToData, htext]
  · simp [Grpc.equalToMessage, htext]
  · simp [Grpc.Reply.message, htext]

/-- No data is both `IsWritten` and `IsUnwritten`. -/
theorem IsWritten.not_isUnwritten (h : d.IsWritten flags text) : ¬ d.IsUnwritten flags := by
  rintro ⟨⟨e, he⟩, -, -⟩
  rw [h.comparison] at he
  cases he

/-- `IsWritten` and `IsUnwritten` are told apart by `document?` alone, since all the operations
write what it gives. -/
theorem isUnwritten_iff : d.IsUnwritten flags ↔ ∃ failure, d.document? = .error failure := by
  cases h : d.document? with
  | ok doc => simp [(isWritten_of_document? h flags).not_isUnwritten]
  | error failure => simp [isUnwritten_of_document? h flags]

/-- `StubResponse.jsonDataStep` makes a JSON body from data that has a whole document, and from no
other. -/
theorem jsonDataStep_eq_ok_iff (h : d.isFloatFree = true) {j : Json.Value} :
    StubResponse.jsonDataStep d = .ok (.jsonBody j) ↔
      ∃ doc, d.document? = .ok doc ∧ doc.isWhole = true ∧ doc.toValue = j := by
  cases hv : d.valueJson? with
  | error failure =>
    have hnone : ¬ ∃ doc, d.document? = .ok doc ∧ doc.isWhole = true ∧ doc.toValue = j := by
      rintro ⟨doc, hdoc, hwhole, -⟩
      cases hv.symm.trans ((valueJson?_eq_ok_iff d h).2 ⟨doc, hdoc, hwhole, rfl⟩)
    simpa [StubResponse.jsonDataStep, value?, hv, Except.map] using hnone
  | ok k =>
    obtain ⟨doc, hdoc, hwhole, rfl⟩ := (valueJson?_eq_ok_iff d h).1 hv
    have hvalue : doc.canonical.toValue = doc.toValue := by
      simp only [Json.toValue, Json.canonical_canonical]
    simp [StubResponse.jsonDataStep, value?, hv, Except.map, hdoc, hwhole, hvalue]

/-- Where `jsonDataStep` gives no JSON body, it gives an error. -/
private theorem jsonDataStep_eq_error_iff :
    (∃ e, StubResponse.jsonDataStep d = .error e) ↔
      ¬ ∃ j, StubResponse.jsonDataStep d = .ok (.jsonBody j) := by
  -- The step makes a body or fails, and nothing else.
  unfold StubResponse.jsonDataStep
  cases d.value? <;> simp

/-- Data without floating point is one document whichever way it is written. If it can be the JSON
body of a response, then it can also be written as a text wherever it is compared to a request or
sent as a message, everywhere as the same one, and unless it nests too deep that text is read as the
very value of the body. The operations that write a text succeed or fail together; where they fail
there is no body, and where they succeed the body fails only on account of an integer that has more
than 64 bits. -/
theorem value_agrees_with_text (d : Data) (flags : List EqualFlag) (h : d.isFloatFree = true) :
    (∀ j : Json.Value, StubResponse.jsonDataStep d = .ok (.jsonBody j) →
        ∃ doc : Json, d.document? = .ok doc ∧ d.IsWritten flags doc.text ∧
          (doc.nesting ≤ Json.maxDepth → Json.parseValue doc.text = .ok j)) ∧
      ((∃ text, d.IsWritten flags text) ∨ d.IsUnwritten flags) ∧
      (d.IsUnwritten flags → ∃ e, StubResponse.jsonDataStep d = .error e) ∧
      ∀ text, d.IsWritten flags text →
        ((∃ e, StubResponse.jsonDataStep d = .error e) ↔
          ∃ n ∈ d.integers, n < -0x8000000000000000 ∨ 0x10000000000000000 ≤ n) := by
  refine ⟨fun j hj => ?_, ?_, fun hnone => ?_, fun text htext => ?_⟩
  · -- A body comes from a whole document, and the text of that document is read back as the body.
    obtain ⟨doc, hdoc, hwhole, rfl⟩ := (jsonDataStep_eq_ok_iff h).1 hj
    exact ⟨doc, hdoc, isWritten_of_document? hdoc flags, Json.parseValue_text hwhole⟩
  · -- All the operations that write a text stand and fall with the document.
    cases hdoc : d.document? with
    | ok doc => exact .inl ⟨doc.text, isWritten_of_document? hdoc flags⟩
    | error failure => exact .inr (isUnwritten_of_document? hdoc flags)
  · -- Without a document there is no text to be the body of.
    obtain ⟨failure, hfailure⟩ := isUnwritten_iff.1 hnone
    rw [jsonDataStep_eq_error_iff]
    rintro ⟨j, hj⟩
    obtain ⟨doc, hdoc, -⟩ := (jsonDataStep_eq_ok_iff h).1 hj
    cases hfailure.symm.trans hdoc
  · -- Where there is a text there is a document, and it makes a body if it is whole.
    obtain ⟨doc, hdoc⟩ : ∃ doc, d.document? = .ok doc := by
      cases hdoc : d.document? with
      | ok doc => exact ⟨doc, rfl⟩
      | error failure => exact absurd (isUnwritten_of_document? hdoc flags) htext.not_isUnwritten
    have hbody : (∃ j, StubResponse.jsonDataStep d = .ok (.jsonBody j)) ↔ doc.isWhole = true := by
      simp [jsonDataStep_eq_ok_iff h, hdoc]
    rw [jsonDataStep_eq_error_iff, hbody, isWhole_document?_iff d h hdoc]
    simp only [Classical.not_forall, exists_prop, Bool.not_eq_true, fitsWord_eq_false_iff]

/-- Two keys of one name leave one member in the value, and an integer of 65 bits is no obstacle to
the text alone. -/
theorem value_agrees_with_text_sameName :
    let d := Data.map [(.integer 2, .bool true), (.integer 10, .null),
      (.string "2", .sequence [.integer (-1)])]
    let wide := Data.sequence [.integer 0x10000000000000000]
    (d.isFloatFree = true ∧ wide.isFloatFree = true) ∧
      (∃ j, StubResponse.jsonDataStep d = .ok (.jsonBody j) ∧
        d.IsWritten [.ignoreArrayOrder] "\x7b\"2\":true,\"10\":null,\"2\":[-1]\x7d" ∧
        Json.parseValue "\x7b\"2\":true,\"10\":null,\"2\":[-1]\x7d" = .ok j) ∧
      wide.IsWritten [] "[18446744073709551616]" ∧
      ∃ e, StubResponse.jsonDataStep wide = .error e := by
  intro d wide
  obtain ⟨j, hj⟩ : ∃ j, StubResponse.jsonDataStep d = .ok (.jsonBody j) := ⟨_, rfl⟩
  obtain ⟨doc, hdoc, hwritten, hread⟩ :=
    (value_agrees_with_text d [.ignoreArrayOrder] (by decide)).1 j hj
  -- The document keeps both members of the name, in their order.
  obtain rfl : .object [("2", .bool true), ("10", .null), ("2", .array [.int (-1)])] = doc :=
    Except.ok.inj hdoc
  have hdocument : wide.document? = .ok (.array [.int 0x10000000000000000]) := rfl
  have hwide : wide.IsWritten [] "[18446744073709551616]" := isWritten_of_document? hdocument []
  refine ⟨by decide, ⟨j, hj, hwritten, hread (by decide)⟩, hwide, ?_⟩
  exact ((value_agrees_with_text wide [] (by decide)).2.2.2 _ hwide).2
    ⟨_, List.mem_cons_self, by decide⟩

end Data

end HttpStub
