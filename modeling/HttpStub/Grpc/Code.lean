/-!
# Status codes of remote calls

The seventeen outcomes of a remote procedure call, by number and by name.
-/

namespace HttpStub.Grpc

/-- The outcome of a call. -/
inductive Code where
  | ok
  | cancelled
  | unknown
  | invalidArgument
  | deadlineExceeded
  | notFound
  | alreadyExists
  | permissionDenied
  | resourceExhausted
  | failedPrecondition
  | aborted
  | outOfRange
  | unimplemented
  | internal
  | unavailable
  | dataLoss
  | unauthenticated
deriving DecidableEq

namespace Code

/-- The outcomes by number, from zero. -/
def all : List Code :=
  [.ok, .cancelled, .unknown, .invalidArgument, .deadlineExceeded, .notFound, .alreadyExists,
   .permissionDenied, .resourceExhausted, .failedPrecondition, .aborted, .outOfRange,
   .unimplemented, .internal, .unavailable, .dataLoss, .unauthenticated]

/-- The outcome of a number in `all`; one that has none is unknown. -/
def ofInt : Int → Code
  | .ofNat n => all[n]?.getD .unknown
  | .negSucc _ => .unknown

/-- The name of an outcome, as `Reply.response` puts it into a header. -/
def name : Code → String
  | .ok => "OK"
  | .cancelled => "CANCELLED"
  | .unknown => "UNKNOWN"
  | .invalidArgument => "INVALID_ARGUMENT"
  | .deadlineExceeded => "DEADLINE_EXCEEDED"
  | .notFound => "NOT_FOUND"
  | .alreadyExists => "ALREADY_EXISTS"
  | .permissionDenied => "PERMISSION_DENIED"
  | .resourceExhausted => "RESOURCE_EXHAUSTED"
  | .failedPrecondition => "FAILED_PRECONDITION"
  | .aborted => "ABORTED"
  | .outOfRange => "OUT_OF_RANGE"
  | .unimplemented => "UNIMPLEMENTED"
  | .internal => "INTERNAL"
  | .unavailable => "UNAVAILABLE"
  | .dataLoss => "DATA_LOSS"
  | .unauthenticated => "UNAUTHENTICATED"

end Code

end HttpStub.Grpc
