import HttpStub.Duration
import HttpStub.Json.Basic

/-!
# Delays

How long a response or webhook is held back: a fixed time, a log-normal distribution around a
median, or a uniform one between two bounds. A dribble sends a body in pieces over a span of time.
All durations are kept as the whole milliseconds that go over the wire.
-/

namespace HttpStub

/-- A distribution of delays, in the milliseconds that `Duration.millis` gives. -/
inductive Delay where
  /-- Always so many. -/
  | fixedAt (milliseconds : UInt64)
  /-- Around a median, with a tail that `sigma` controls. -/
  | logNormalAround (median : UInt64) (sigma : Float)
  /-- Anything between the bounds. -/
  | uniformBetween (lower upper : UInt64)
deriving DecidableEq

namespace Delay

/-- Always the same delay, `Delay.fixedAt`. -/
def fixed (delay : Duration) : Delay :=
  .fixedAt delay.millis

/-- A log-normal delay; `sigma` controls its tail. -/
def logNormal (median : Duration) (sigma : Float) : Delay :=
  .logNormalAround median.millis sigma

/-- A delay between two bounds, which are not compared here. -/
def uniform (lower upper : Duration) : Delay :=
  .uniformBetween lower.millis upper.millis

/-- A delay as a document: a type tag, then the parameters. -/
def toJson : Delay → Json
  | .fixedAt milliseconds =>
    .object [("type", .string "fixed"), ("milliseconds", .nat milliseconds.toNat)]
  | .logNormalAround median sigma =>
    .object [("type", .string "lognormal"), ("median", .nat median.toNat),
      ("sigma", .ofFloat sigma)]
  | .uniformBetween lower upper =>
    .object [("type", .string "uniform"), ("lower", .nat lower.toNat), ("upper", .nat upper.toNat)]

/-- Sameness, where `sigma` is compared as a number: not a number is never the same. -/
def same : Delay → Delay → Bool
  | .fixedAt a, .fixedAt b => a == b
  | .logNormalAround a s, .logNormalAround b t => a == b && s == t
  | .uniformBetween a c, .uniformBetween b d => a == b && c == d
  | _, _ => false

end Delay

/-- A body sent in pieces spread over a span of time. -/
structure Dribble where
  /-- How many pieces. -/
  chunks : UInt32
  /-- How long all of them take. -/
  totalMillis : UInt64
deriving DecidableEq

namespace Dribble

/-- So many pieces over so much time, cut to whole milliseconds. -/
def spread (chunks : UInt32) (total : Duration) : Dribble :=
  ⟨chunks, total.millis⟩

/-- A dribble as a document. -/
def toJson (d : Dribble) : Json :=
  .object [("numberOfChunks", .nat d.chunks.toNat), ("totalDuration", .nat d.totalMillis.toNat)]

end Dribble

end HttpStub
