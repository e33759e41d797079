/-!
# Characters from bytes

Bytes are read as UTF-8 from left to right. Where they are no character, the longest run of them
that could have begun one is given up as a whole. `decode?` accepts no such run, `decodeLossy` puts
the replacement character in its place.
-/

namespace HttpStub.Text.Utf8

/-- The bytes of a text. -/
def encode (cs : List Char) : List UInt8 :=
  cs.flatMap String.utf8EncodeChar

/-- What the first byte of a character says. -/
structure Lead where
  /-- The bits of the code point that the byte holds. -/
  bits : Nat
  /-- The number of bytes behind it. -/
  following : Nat
  /-- The lower bound of the second byte. -/
  low : Nat
  /-- Its upper bound. -/
  high : Nat
deriving DecidableEq

/-- Reads the first byte of a character. The bounds of the second byte leave out spellings that are
too long, surrogates, and numbers above the last code point. -/
def lead? (b : Nat) : Option Lead :=
  -- ASCII is one byte, and takes nothing behind it.
  if b < 0x80 then some ⟨b, 0, 0x80, 0xBF⟩
  -- A byte that only continues, or one that could only spell ASCII in two bytes.
  else if b < 0xC2 then none
  else if b < 0xE0 then some ⟨b - 0xC0, 1, 0x80, 0xBF⟩
  else if b < 0xF0 then
    some ⟨b - 0xE0, 2, if b = 0xE0 then 0xA0 else 0x80, if b = 0xED then 0x9F else 0xBF⟩
  else if b < 0xF5 then
    some ⟨b - 0xF0, 3, if b = 0xF0 then 0x90 else 0x80, if b = 0xF4 then 0x8F else 0xBF⟩
  else none

/-- Adds the bits of the following bytes to those gathered before, up to a byte out of bounds. -/
def follow : Nat → Nat → Nat → Nat → List UInt8 → Option Nat × List UInt8
  | 0, _, _, bits, bytes => (some bits, bytes)
  | _ + 1, _, _, _, [] => (none, [])
  | following + 1, low, high, bits, b :: bytes =>
    if low ≤ b.toNat ∧ b.toNat ≤ high then
      -- Only the second byte has bounds of its own.
      follow following 0x80 0xBF (bits * 64 + b.toNat % 64) bytes
    else (none, b :: bytes)

/-- Takes the first character, by `lead?` and `follow`, or gives up the bytes that could have begun
one. -/
def takeChar (b : UInt8) (bytes : List UInt8) : Option Char × List UInt8 :=
  match lead? b.toNat with
  | none => (none, bytes)
  | some l =>
    -- The byte that is out of bounds may begin the next character, so it is not given up.
    let (code, rest) := follow l.following l.low l.high l.bits bytes
    (code.map Char.ofNat, rest)

/-- `follow` leaves no more bytes than it was given. -/
theorem length_follow_le (following low high bits : Nat) (bytes : List UInt8) :
    (follow following low high bits bytes).2.length ≤ bytes.length := by
  -- By induction on the bytes; each that is taken leaves one less.
  induction bytes generalizing following low high bits with
  | nil => cases following <;> simp [follow]
  | cons b bytes ih =>
    cases following with
    | zero => simp [follow]
    | succ n =>
      unfold follow
      split
      · exact Nat.le_succ_of_le (ih ..)
      · exact Nat.le_refl _

/-- `takeChar` leaves no more bytes than are behind the first one, so `parts` ends. -/
theorem length_takeChar_le (b : UInt8) (bytes : List UInt8) :
    (takeChar b bytes).2.length ≤ bytes.length := by
  unfold takeChar
  split
  · exact Nat.le_refl _
  · exact length_follow_le ..

/-- The characters of the bytes, one by one with `takeChar`, with nothing where there is none. -/
def parts : List UInt8 → List (Option Char)
  | [] => []
  | b :: bytes => (takeChar b bytes).1 :: parts (takeChar b bytes).2
termination_by bytes => bytes.length
decreasing_by exact Nat.lt_succ_of_le (length_takeChar_le b bytes)

/-- The characters of the bytes, if no one of their `parts` is nothing. -/
def decode? (bytes : List UInt8) : Option (List Char) :=
  (parts bytes).mapM id

/-- The replacement character, which `decodeLossy` puts for bytes that are none. -/
def replacement : Char := '\uFFFD'

/-- The characters of the bytes, and the `replacement` for bytes that are none. -/
def decodeLossy (bytes : List UInt8) : List Char :=
  (parts bytes).map (·.getD replacement)

end HttpStub.Text.Utf8
