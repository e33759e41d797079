import HttpStub.Journal.Entry
import HttpStub.Proofs.Journal.Fields

/-!
# The types of the journal

All records that the journal is made of, with their fields. The fields of each of them are lawful.
-/

namespace HttpStub

/-- The types of the records in the journal, from the parts of an entry to the answers of the
server. -/
inductive RecordType : Type → Type where
  | parameter : RecordType LoggedParameter
  | request : RecordType LoggedRequest
  | responseDefinition : RecordType ResponseDefinition
  | response : RecordType LoggedResponse
  | timing : RecordType Timing
  | stubMappingRequest : RecordType StubMappingRequest
  | stubMapping : RecordType StubMapping
  | event : RecordType ServeEvent
  | size : RecordType JournalSize
  | listing : RecordType JournalListing
  | found : RecordType FoundRequests
  | removed : RecordType RemovedEntries
  | count : RecordType RequestCount

namespace RecordType

variable {σ : Type}

/-- The codec of the records, `LoggedParameter.codec` and so on. -/
def codec : RecordType σ → Codec σ
  | .parameter => LoggedParameter.codec
  | .request => LoggedRequest.codec
  | .responseDefinition => ResponseDefinition.codec
  | .response => LoggedResponse.codec
  | .timing => Timing.codec
  | .stubMappingRequest => StubMappingRequest.codec
  | .stubMapping => StubMapping.codec
  | .event => ServeEvent.codec
  | .size => JournalSize.codec
  | .listing => JournalListing.codec
  | .found => FoundRequests.codec
  | .removed => RemovedEntries.codec
  | .count => RequestCount.codec

/-- The record of which nothing is known, which reading begins with. -/
def blank : RecordType σ → σ
  | .parameter => LoggedParameter.blank
  | .request => LoggedRequest.blank
  | .responseDefinition => ResponseDefinition.blank
  | .response => LoggedResponse.blank
  | .timing => Timing.blank
  | .stubMappingRequest => StubMappingRequest.blank
  | .stubMapping => StubMapping.blank
  | .event => ServeEvent.blank
  | .size => JournalSize.blank
  | .listing => JournalListing.blank
  | .found => FoundRequests.blank
  | .removed => RemovedEntries.blank
  | .count => RequestCount.blank

/-- The fields in their order, `LoggedParameter.fields` and so on; `codec_eq_record` makes the codec
of them. -/
def fields : RecordType σ → List (Field σ)
  | .parameter => LoggedParameter.fields
  | .request => LoggedRequest.fields
  | .responseDefinition => ResponseDefinition.fields
  | .response => LoggedResponse.fields
  | .timing => Timing.fields
  | .stubMappingRequest => StubMappingRequest.fields
  | .stubMapping => StubMapping.fields
  | .event => ServeEvent.fields
  | .size => JournalSize.fields
  | .listing => JournalListing.fields
  | .found => FoundRequests.fields
  | .removed => RemovedEntries.fields
  | .count => RequestCount.fields

/-- The codec goes by the fields: it is `Codec.record` of them. -/
theorem codec_eq_record (r : RecordType σ) : ∃ name, r.codec = .record name r.blank r.fields := by
  -- Each codec was defined as the one of its fields.
  cases r <;> exact ⟨_, rfl⟩

attribute [local simp] LoggedParameter.fields LoggedRequest.fields ResponseDefinition.fields
  LoggedResponse.fields Timing.fields StubMappingRequest.fields StubMapping.fields ServeEvent.fields
  JournalSize.fields JournalListing.fields FoundRequests.fields RemovedEntries.fields
  RequestCount.fields

/-- The fields of every record are `Field.Lawful`: no two have the same name or get into the way of
each other, and a record is nothing but its fields. -/
theorem lawful_fields (r : RecordType σ) : Field.Lawful r.fields := by
  -- The names are told apart by their letters, and what `get` finds after `set` by the components.
  cases r <;>
    · refine ⟨by decide, by simp [fields], by simp [fields], ?_⟩
      -- Two records that agree on all fields agree on their components.
      rintro ⟨⟩ ⟨⟩ h
      simp_all [fields]

end RecordType

end HttpStub
