/-!
# Internet addresses

A host name that ends in a number is an address of the fourth version. Its parts may be decimal,
octal or hexadecimal, and the last one fills all places that are left. An address of the sixth
version has eight pieces; two colons stand for a run of zeros, and the last two pieces may be
written as an address of the fourth version. It is printed with the first of its longest runs of
zeros left out.
-/

namespace HttpStub.Url

/-- The value of a digit in any base up to sixteen. -/
def digitValue? (base : Nat) (c : Char) : Option Nat :=
  let value? : Option Nat :=
    if '0' ≤ c ∧ c ≤ '9' then some (c.toNat - '0'.toNat)
    else if 'a' ≤ c ∧ c ≤ 'f' then some (c.toNat - 'a'.toNat + 10)
    else if 'A' ≤ c ∧ c ≤ 'F' then some (c.toNat - 'A'.toNat + 10)
    else none
  value?.filter (· < base)

/-- The number of a row of digits, each by `digitValue?`. -/
def number? (base : Nat) (digits : List Char) : Option Nat :=
  digits.foldlM (fun n c => (digitValue? base c).map (n * base + ·)) 0

namespace Ipv4

/-- A part of an address: hexadecimal behind `0x`, octal behind another zero, decimal otherwise. A
mark without digits is zero. -/
def part? : List Char → Option Nat
  | [] => none
  | '0' :: 'x' :: digits => number? 16 digits
  | '0' :: 'X' :: digits => number? 16 digits
  -- A zero that stands alone is decimal, which makes no difference.
  | '0' :: c :: digits => number? 8 (c :: digits)
  | digits => number? 10 digits

/-- The parts of a name, without an empty one behind a dot at the end. -/
def parts (name : List Char) : List (List Char) :=
  let all := name.splitOnP (· = '.')
  if 1 < all.length ∧ all.getLast? = some [] then all.dropLast else all

/-- Whether a name is meant as an address: the last of its `parts` is a number. -/
def isMeant (name : List Char) : Bool :=
  match (parts name).getLast? with
  | none => false
  -- Digits that make no octal number are meant as a number as well.
  | some last => (last ≠ [] && last.all Char.isDigit) || (part? last).isSome

/-- The address of up to four numbers: all but the last are single bytes. -/
def ofNumbers? : Nat → List Nat → Option Nat
  | _, [] => none
  -- The last number fills all places that are left.
  | places, [last] => if last < Nat.pow 256 places then some last else none
  | places, n :: rest => do
    let lower ← ofNumbers? (places - 1) rest
    if n < 256 then return n * Nat.pow 256 (places - 1) + lower else none

/-- The address that a name spells, its `parts` read by `part?`. -/
def ofName? (name : List Char) : Option UInt32 := do
  let all := parts name
  if 4 < all.length then none
  else
    let numbers ← all.mapM part?
    return UInt32.ofNat (← ofNumbers? 4 numbers)

/-- Four decimal bytes with dots between them. -/
def chars (address : UInt32) : List Char :=
  let n := address.toNat
  let bytes := [n / 0x1000000 % 256, n / 0x10000 % 256, n / 0x100 % 256, n % 256]
  ['.'].intercalate (bytes.map (Nat.toDigits 10))

/-- A decimal byte without leading zeros, as an address inside `Ipv6.pieces?` has it. -/
def byte? (digits : List Char) : Option Nat :=
  match digits with
  | [] => none
  | ['0'] => some 0
  | '0' :: _ => none
  | digits => (number? 10 digits).filter (· < 256)

/-- The two sixteen-bit pieces of an address in its plain spelling. -/
def pieces? (text : List Char) : Option (List Nat) := do
  match ← (text.splitOnP (· = '.')).mapM byte? with
  | [a, b, c, d] => return [a * 256 + b, c * 256 + d]
  | _ => none

end Ipv4

namespace Ipv6

/-- A piece of one to four hexadecimal digits. -/
def piece? (digits : List Char) : Option Nat :=
  if digits = [] ∨ 4 < digits.length then none else number? 16 digits

/-- The pieces between colons. Only the last one may be an address of the fourth version. -/
def pieces? : List (List Char) → Option (List Nat)
  | [] => some []
  | [last] => if last.contains '.' then Ipv4.pieces? last else (piece? last).map ([·])
  | text :: rest => do return (← piece? text) :: (← pieces? rest)

/-- The pieces of one side of a double colon by `Ipv6.pieces?`; there may be none. -/
def sidePieces? (text : List Char) : Option (List Nat) :=
  if text = [] then some [] else pieces? (text.splitOnP (· = ':'))

/-- The text before the first double colon and the text behind it, each for `sidePieces?`. -/
def splitCompressed? : List Char → Option (List Char × List Char)
  | ':' :: ':' :: rest => some ([], rest)
  | c :: rest => (splitCompressed? rest).map fun p => (c :: p.1, p.2)
  | [] => none

/-- The eight pieces that a text spells, on one side or on two. -/
def ofText? (text : List Char) : Option (List Nat) := do
  match splitCompressed? text with
  | none =>
    let all ← sidePieces? text
    if all.length = 8 then return all else none
  | some (before, behind) =>
    -- The plain spelling of the last pieces can only stand at the very end.
    let left ← if before.contains '.' then none else sidePieces? before
    let right ← sidePieces? behind
    let count := left.length + right.length
    -- Two colons stand for one zero at least.
    if count < 8 then return left ++ List.replicate (8 - count) 0 ++ right else none

/-- The length of the run of zeros at the front. -/
def leadingZeros (pieces : List Nat) : Nat :=
  (pieces.takeWhile (· = 0)).length

/-- The length of the longest run of zeros, which `Ipv6.chars` leaves out. -/
def longestZeros : List Nat → Nat
  | [] => 0
  | n :: rest => max (leadingZeros (n :: rest)) (longestZeros rest)

/-- Pieces with colons between them. -/
def join (pieces : List Nat) : List Char :=
  [':'].intercalate (pieces.map (Nat.toDigits 16))

/-- The pieces in front of the first run of `run` zeros, and those behind it; `run` is that of
`longestZeros`. -/
def splitAtZeros (run : Nat) : List Nat → List Nat × List Nat
  | [] => ([], [])
  | n :: rest =>
    -- The first place with so many zeros begins the first of the longest runs.
    if leadingZeros (n :: rest) = run then ([], (n :: rest).drop run)
    else
      let (before, behind) := splitAtZeros run rest
      (n :: before, behind)

/-- The text of an address. A single zero is not left out. -/
def chars (pieces : List Nat) : List Char :=
  let run := longestZeros pieces
  if run < 2 then join pieces
  else
    let (before, behind) := splitAtZeros run pieces
    join before ++ [':', ':'] ++ join behind

end Ipv6

end HttpStub.Url
