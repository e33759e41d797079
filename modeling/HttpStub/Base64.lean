/-!
# Base64

Bytes as letters of the standard alphabet: three bytes make four letters, and a shorter last group
is filled up with equals signs. `decode?` reads the letters back and accepts nothing else.
-/

namespace HttpStub.Base64

/-- The letter of a six-bit number, as `encode` puts it. -/
def letter (n : Nat) : Char :=
  if n < 26 then Char.ofNat ('A'.toNat + n)
  else if n < 52 then Char.ofNat ('a'.toNat + (n - 26))
  else if n < 62 then Char.ofNat ('0'.toNat + (n - 52))
  else if n = 62 then '+'
  else '/'

/-- The number of a letter; it undoes `letter`, and an equals sign has none. -/
def number? (c : Char) : Option Nat :=
  if 'A' ≤ c ∧ c ≤ 'Z' then some (c.toNat - 'A'.toNat)
  else if 'a' ≤ c ∧ c ≤ 'z' then some (c.toNat - 'a'.toNat + 26)
  else if '0' ≤ c ∧ c ≤ '9' then some (c.toNat - '0'.toNat + 52)
  else if c = '+' then some 62
  else if c = '/' then some 63
  else none

/-- The letters of a sequence of bytes, with equals signs in a last group that is shorter. -/
def encode : List UInt8 → List Char
  | [] => []
  | [a] => [letter (a.toNat / 4), letter (a.toNat % 4 * 16), '=', '=']
  | [a, b] =>
    [letter (a.toNat / 4), letter (a.toNat % 4 * 16 + b.toNat / 16),
      letter (b.toNat % 16 * 4), '=']
  -- Twenty-four bits are four numbers of six.
  | a :: b :: c :: rest =>
    letter (a.toNat / 4) :: letter (a.toNat % 4 * 16 + b.toNat / 16) ::
      letter (b.toNat % 16 * 4 + c.toNat / 64) :: letter (c.toNat % 64) :: encode rest

/-- The bytes of a text of letters, so of what `encode` writes; the bits that fill up the last group
have to be zero. -/
def decode? : List Char → Option (List UInt8)
  | [] => some []
  -- Only the last group may be filled up, and only from behind.
  | [w, x, y, z] => do
    let a ← number? w
    let b ← number? x
    if y = '=' then
      -- One byte takes a letter and two bits of the next.
      if z = '=' ∧ b % 16 = 0 then return [UInt8.ofNat (a * 4 + b / 16)] else none
    else
      let c ← number? y
      if z = '=' then
        if c % 4 = 0 then
          return [UInt8.ofNat (a * 4 + b / 16), UInt8.ofNat (b % 16 * 16 + c / 4)]
        else none
      else
        let d ← number? z
        return [UInt8.ofNat (a * 4 + b / 16), UInt8.ofNat (b % 16 * 16 + c / 4),
          UInt8.ofNat (c % 4 * 64 + d)]
  | w :: x :: y :: z :: rest => do
    let a ← number? w
    let b ← number? x
    let c ← number? y
    let d ← number? z
    let bytes ← decode? rest
    return UInt8.ofNat (a * 4 + b / 16) :: UInt8.ofNat (b % 16 * 16 + c / 4) ::
      UInt8.ofNat (c % 4 * 64 + d) :: bytes
  | _ => none

end HttpStub.Base64
