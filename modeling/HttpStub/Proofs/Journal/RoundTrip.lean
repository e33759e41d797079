import HttpStub.Proofs.Journal.Lawful
import HttpStub.Proofs.Journal.Types

/-!
# The journal is read back

The codecs of the journal are lawful, from the parts of an entry to the answers of the server, with
at most seven brackets open at a time. So every value is read back from its text and from its JSON
value.
-/

namespace HttpStub

open Json

namespace RecordType

variable {σ : Type} (n : Nat)

/-- A `RecordType` has a lawful codec if those of its fields are lawful. -/
private theorem lawful_of_fields (r : RecordType σ) (h : ∀ f ∈ r.fields, f.codec.Lawful n) :
    r.codec.Lawful (n + 1) := by
  -- Whatever kind of record it is, its codec is the one that is put together from its fields.
  obtain ⟨name, hcodec⟩ := r.codec_eq_record
  rw [hcodec]
  exact Codec.lawful_record r.lawful_fields h name r.blank

/-- A `LoggedParameter` holds a list of texts. -/
@[simp] theorem lawful_parameter : LoggedParameter.codec.Lawful (n + 2) :=
  parameter.lawful_of_fields _ (by simp [fields, LoggedParameter.fields])

/-- A `LoggedRequest` holds dictionaries of parameters. -/
@[simp] theorem lawful_request : LoggedRequest.codec.Lawful (n + 4) :=
  request.lawful_of_fields _ (by simp [fields, LoggedRequest.fields])

/-- A `ResponseDefinition` holds a dictionary of logged values. -/
@[simp] theorem lawful_responseDefinition : ResponseDefinition.codec.Lawful (n + 3) :=
  responseDefinition.lawful_of_fields _ (by simp [fields, ResponseDefinition.fields])

/-- A `LoggedResponse` holds a dictionary of logged values. -/
@[simp] theorem lawful_response : LoggedResponse.codec.Lawful (n + 3) :=
  response.lawful_of_fields _ (by simp [fields, LoggedResponse.fields])

/-- A `Timing` holds numbers only. -/
@[simp] theorem lawful_timing : Timing.codec.Lawful (n + 1) :=
  timing.lawful_of_fields _ (by simp [fields, Timing.fields])

/-- A `StubMappingRequest` holds texts only. -/
@[simp] theorem lawful_stubMappingRequest : StubMappingRequest.codec.Lawful (n + 1) :=
  stubMappingRequest.lawful_of_fields _ (by simp [fields, StubMappingRequest.fields])

/-- A `StubMapping` holds its `ResponseDefinition`. -/
@[simp] theorem lawful_stubMapping : StubMapping.codec.Lawful (n + 4) :=
  stubMapping.lawful_of_fields _ (by simp [fields, StubMapping.fields])

/-- A `ServeEvent` holds the request, the rule and the response. -/
@[simp] theorem lawful_event : ServeEvent.codec.Lawful (n + 5) :=
  event.lawful_of_fields _ (by simp [fields, ServeEvent.fields])

/-- A `JournalSize` holds one number. -/
@[simp] theorem lawful_size : JournalSize.codec.Lawful (n + 1) :=
  size.lawful_of_fields _ (by simp [fields, JournalSize.fields])

/-- The codecs of all fields in the journal are lawful, and no field opens more than six brackets.
-/
theorem lawful_field (r : RecordType σ) : ∀ f ∈ r.fields, f.codec.Lawful (n + 6) := by
  -- Each field has a codec that is known by now; the deepest one holds the events.
  cases r <;> simp [fields, LoggedParameter.fields, LoggedRequest.fields, ResponseDefinition.fields,
    LoggedResponse.fields, Timing.fields, StubMappingRequest.fields, StubMapping.fields,
    ServeEvent.fields, JournalSize.fields, JournalListing.fields, FoundRequests.fields,
    RemovedEntries.fields, RequestCount.fields]

/-- The codecs of all records in the journal are lawful, and no record opens more than seven
brackets. -/
theorem lawful_codec (r : RecordType σ) : r.codec.Lawful (n + 7) :=
  r.lawful_of_fields (n + 6) (r.lawful_field n)

end RecordType

/-- Every value comes back, from its text by `Codec.decode` as well as from its JSON value by
`Codec.ofJson`. -/
def Codec.RoundTrips {α : Type} (codec : Codec α) : Prop :=
  ∀ a, codec.decode (codec.text a) = .ok a ∧ codec.ofJson (codec.write a).toValue.json = .ok a

/-- A `Lawful` codec reads back what it writes, if `maxDepth` brackets are enough for it. -/
theorem Codec.Lawful.roundTrips {α : Type} {codec : Codec α} {n : Nat} (h : codec.Lawful n)
    (hn : n ≤ maxDepth) : codec.RoundTrips :=
  -- The text is the only way that counts brackets.
  fun a => ⟨h.decode_text hn a, h.ofJson_toValue a⟩

/-- The values of headers and all records of the journal come back. -/
theorem journal_roundTrips :
    LoggedValue.codec.RoundTrips ∧ ∀ {σ : Type} (r : RecordType σ), r.codec.RoundTrips :=
  -- The limit of the reader is far above seven.
  ⟨(Codec.lawful_loggedValue 0).roundTrips (by decide),
    fun r => (r.lawful_codec 0).roundTrips (by decide)⟩

end HttpStub
