import HttpStub.Json.Read.Basic

/-!
# Reading number literals

A literal is first taken off the text as its parts, then given its value. A literal without fraction
and exponent is an integer if it fits into 64 bits, a negative one as a signed word; `-0` and all
others are doubles. The digits of a double are gathered in an unsigned word, those that no longer
fit are dropped, and the word is scaled once by a power of ten; this is quick, and the last bit of
the result may differ from the nearest double.
-/

namespace HttpStub.Json

/-- The parts of a number literal, as `NumberLiteral.read` takes them and `NumberLiteral.value` sees
them. -/
structure NumberLiteral where
  negative : Bool
  whole : List Char
  /-- The digits behind the point, none if there is no point. -/
  fraction : List Char
  /-- Whether the exponent is negative, and its digits. -/
  exponent : Option (Bool × List Char)
deriving DecidableEq

namespace NumberLiteral

/-- A digit was expected; `atEnd` tells how the end of the text is reported. -/
def noDigit {α : Type} (atEnd : Cause) : List Char → Except Fault α
  | [] => malformedBefore atEnd []
  | c :: rest => malformedAt .invalidNumber (c :: rest)

/-- Reads the digits before the point: a zero stands alone. -/
def readWhole (atEnd : Cause) : Reader (List Char)
  | [] => noDigit atEnd []
  | c :: rest =>
    if c = '0' then
      match rest with
      -- Another digit behind a leading zero is one too much.
      | d :: _ => if d.isDigit then malformedAt .invalidNumber rest else .ok ([c], rest)
      | [] => .ok ([c], rest)
    else if c.isDigit then .ok (c :: rest.takeWhile Char.isDigit, rest.dropWhile Char.isDigit)
    else noDigit atEnd (c :: rest)

/-- Reads a point and the digits behind it, or nothing. -/
def readFraction (atEnd : Cause) : Reader (List Char)
  | [] => .ok ([], [])
  | c :: rest =>
    if c = '.' then
      match rest with
      | d :: _ =>
        if d.isDigit then .ok (rest.takeWhile Char.isDigit, rest.dropWhile Char.isDigit)
        else noDigit atEnd rest
      | [] => noDigit atEnd []
    else .ok ([], c :: rest)

/-- Takes the sign of an exponent: whether it is a minus. -/
def exponentSign : List Char → Bool × List Char
  | [] => (false, [])
  | c :: rest =>
    if c = '-' then (true, rest) else if c = '+' then (false, rest) else (false, c :: rest)

/-- Reads an exponent mark, its sign and its digits, or nothing. -/
def readExponent (atEnd : Cause) : Reader (Option (Bool × List Char))
  | [] => .ok (none, [])
  | c :: rest =>
    if c = 'e' || c = 'E' then
      let (negative, digits) := exponentSign rest
      match digits with
      | d :: _ =>
        if d.isDigit then
          .ok (some (negative, digits.takeWhile Char.isDigit), digits.dropWhile Char.isDigit)
        else noDigit atEnd digits
      | [] => noDigit atEnd []
    else .ok (none, c :: rest)

/-- Takes the sign of a literal: whether it is a minus. -/
def sign : List Char → Bool × List Char
  | [] => (false, [])
  | c :: rest => if c = '-' then (true, rest) else (false, c :: rest)

/-- Takes a literal off the text; `atEnd` is the cause where the text ends too early. -/
def read (atEnd : Cause) : Reader NumberLiteral := fun cs => do
  let (negative, cs) := sign cs
  let (whole, cs) ← readWhole atEnd cs
  let (fraction, cs) ← readFraction atEnd cs
  let (exponent, cs) ← readExponent atEnd cs
  return (⟨negative, whole, fraction, exponent⟩, cs)

/-! ## Values -/

/-- The value of a decimal digit. -/
def digitValue (c : Char) : Nat :=
  c.toNat - '0'.toNat

/-- Appends digits to a 64-bit word until one does not fit, and counts those left out. -/
def gather (word : Nat) : List Char → Nat × Nat
  | [] => (word, 0)
  | d :: ds =>
    let next := word * 10 + digitValue d
    -- Once a digit is dropped, so are all behind it.
    if next < UInt64.size then gather next ds else (word, ds.length + 1)

/-- The value of the digits, or those behind the digit with which it exceeds a 32-bit word. -/
def exponentValue (word : Nat) : List Char → Except (List Char) Nat
  | [] => .ok word
  | d :: ds =>
    let next := word * 10 + digitValue d
    if next < 0x80000000 then exponentValue next ds else .error ds

/-- The double nearest to a power of ten. -/
def powerOfTen (exponent : Nat) : Float :=
  Float.ofScientific 1 false exponent

/-- Multiplies or divides by `powerOfTen`, far below zero in several steps; nothing if the result is
infinite. -/
def scale? (x : Float) (exponent : Int) : Option Float :=
  if exponent.natAbs ≤ 308 then
    if 0 ≤ exponent then
      let scaled := x * powerOfTen exponent.natAbs
      if scaled.isInf then none else some scaled
    else some (x / powerOfTen exponent.natAbs)
  -- Zero may be scaled as far as one likes.
  else if x == 0.0 then some x
  else if 0 ≤ exponent then none
  else scale? (x / powerOfTen 308) (exponent + 308)
termination_by exponent.natAbs
decreasing_by omega

/-- The double `word · 10 ^ exponent` with a sign, if `scale?` keeps it finite. -/
def float? (negative : Bool) (word : Nat) (exponent : Int) : Option Number :=
  (scale? word.toUInt64.toFloat exponent).map fun x => .float (if negative then -x else x)

/-- An integer of 64 bits, or the double in its place where a signed word cannot hold it. -/
def integer (negative : Bool) (word : Nat) : Number :=
  if negative then
    -- Negative zero is no integer: its sign would be lost.
    if 0 < word ∧ word ≤ 0x8000000000000000 then .int (-(word : Int))
    else .float (-word.toUInt64.toFloat)
  else .int word

/-- The value of a literal; where it is out of range, the exponent's digits not looked at. -/
def value (l : NumberLiteral) : Except (List Char) Number :=
  let (word, dropped) := gather 0 l.whole
  let (word', dropped') := gather word l.fraction
  -- A dropped digit of the whole part raises the scale, a kept digit of the fraction lowers it.
  let exponent : Int := dropped - (l.fraction.length - dropped' : Nat)
  match l.exponent with
  | none =>
    -- Without exponent, fraction or a digit too many it is an integer.
    if l.fraction.isEmpty && dropped = 0 then .ok (integer l.negative word)
    else (float? l.negative word' exponent).elim (.error []) .ok
  | some (negative, digits) =>
    match exponentValue 0 digits with
    | .ok n =>
      let exponent := if negative then exponent - n else exponent + n
      (float? l.negative word' exponent).elim (.error []) .ok
    | .error left =>
      -- Zero stays zero at any scale, and what is far too small becomes zero.
      if word' ≠ 0 ∧ !negative then .error left
      else .ok (.float (if l.negative then -0.0 else 0.0))

end NumberLiteral

/-- Reads a number from its sign or first digit on, and gives it its `NumberLiteral.value`. -/
def numberLiteral : Reader Number := fun cs => do
  let (literal, unread) ← NumberLiteral.read .endInValue cs
  match literal.value with
  | .ok n => return (n, unread)
  | .error left => malformedBefore .numberOutOfRange (left ++ unread)

/-- Passes over a number, whatever its size: `NumberLiteral.read` without a value. -/
def skipNumber (cs : List Char) : Except Fault (List Char) :=
  (NumberLiteral.read .invalidNumber cs).map Prod.snd

end HttpStub.Json
