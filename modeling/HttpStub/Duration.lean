/-!
# Durations

A span of time in seconds and nanoseconds. On the wire a duration is a number of whole milliseconds
in an unsigned 64-bit word: the rest of a millisecond is cut off, and what is too long for the word
becomes its greatest value.
-/

namespace HttpStub

/-- Seconds in an unsigned 64-bit word, and nanoseconds below one second. -/
structure Duration where
  seconds : Nat
  nanos : Nat
  seconds_lt : seconds < UInt64.size
  nanos_lt : nanos < 1000000000
deriving DecidableEq

namespace Duration

/-- The duration of these parts, if both are in range. -/
def ofParts? (seconds nanos : Nat) : Option Duration :=
  if h : seconds < UInt64.size ∧ nanos < 1000000000 then some ⟨seconds, nanos, h.1, h.2⟩
  else none

/-- A number of milliseconds. -/
def ofMillis (millis : UInt64) : Duration :=
  ⟨millis.toNat / 1000, millis.toNat % 1000 * 1000000,
    Nat.lt_of_le_of_lt (Nat.div_le_self _ _) millis.toNat_lt, by omega⟩

/-- The milliseconds that have passed in full. -/
def wholeMillis (d : Duration) : Nat :=
  d.seconds * 1000 + d.nanos / 1000000

/-- `wholeMillis` as a 64-bit word, its greatest value if they do not fit. -/
def millis (d : Duration) : UInt64 :=
  UInt64.ofNat (min d.wholeMillis (UInt64.size - 1))

/-- `millis` are `wholeMillis`, or the greatest word if these are more. -/
theorem toNat_millis (d : Duration) : d.millis.toNat = min d.wholeMillis (UInt64.size - 1) := by
  have hlt : min d.wholeMillis (UInt64.size - 1) < UInt64.size := by
    have hpos : 0 < UInt64.size := by decide
    omega
  -- The greatest word caps the number, so nothing wraps around.
  rw [millis, UInt64.toNat_ofNat', Nat.mod_eq_of_lt hlt]

end Duration

end HttpStub
