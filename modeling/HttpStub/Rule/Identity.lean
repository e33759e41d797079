/-!
# Identities

A rule is known by 122 random bits, written in the fourth version of universally unique
identifiers: hexadecimal digits in groups of eight, four, four, four and twelve.
-/

namespace HttpStub

/-- A universally unique identifier, as its upper and lower 64 bits. -/
structure Uuid where
  high : UInt64
  low : UInt64
deriving DecidableEq

namespace Uuid

/-- The identifier of the fourth version made from random bits. -/
def ofRandom (high low : UInt64) : Uuid where
  -- Four bits tell the version and two bits the variant.
  high := (high &&& 0xFFFFFFFFFFFF0FFF) ||| 0x0000000000004000
  low := (low &&& 0x3FFFFFFFFFFFFFFF) ||| 0x8000000000000000

/-- The last `count` hexadecimal digits of a number, all of them written, zeros in front too. -/
def hexDigits : Nat → Nat → List Char
  | 0, _ => []
  | count + 1, n => hexDigits count (n / 16) ++ [Nat.digitChar (n % 16)]

/-- The text of an identifier, which `StubRule.toJson` writes twice. -/
def text (u : Uuid) : String :=
  let high := u.high.toNat
  let low := u.low.toNat
  String.ofList
    -- `hexDigits` cuts off all that stands in front of a group.
    (hexDigits 8 (high / 0x100000000) ++ '-' :: hexDigits 4 (high / 0x10000) ++
      '-' :: hexDigits 4 high ++ '-' :: hexDigits 4 (low / 0x1000000000000) ++
      '-' :: hexDigits 12 low)

/-- Whether version and variant are those that `ofRandom` sets. -/
def isRandom (u : Uuid) : Bool :=
  u.high.toNat / 0x1000 % 16 = 4 && u.low.toNat / 0x4000000000000000 = 2

end Uuid

end HttpStub
