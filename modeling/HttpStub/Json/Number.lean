import HttpStub.Decimal.Shortest

/-!
# JSON numbers

A number is an integer or a finite double. An integer is written by its digits, a double by the
shortest digits that read back, positional for decimal exponents in a fixed range and scientific
outside of it.
-/

namespace HttpStub.Json

/-- A number of a document, written by `Number.chars`. -/
inductive Number where
  /-- An integer of any size. -/
  | int (n : Int)
  /-- A double, finite in every document that is read or written. -/
  | float (x : Float)
deriving DecidableEq

/-- Which decimal exponents are written `FloatLayout.positional`, from the least to the greatest. -/
structure FloatLayout where
  least : Int
  greatest : Int

/-- One hundred-thousandth and all below ten quadrillion are written positionally. -/
def FloatLayout.standard : FloatLayout := ⟨-5, 15⟩

/-- Decimal digits of a natural number. -/
def natChars (n : Nat) : List Char :=
  Nat.toDigits 10 n

/-- Decimal digits of an integer by `natChars`, with a minus sign below zero. -/
def intChars (n : Int) : List Char :=
  if n < 0 then '-' :: natChars n.natAbs else natChars n.natAbs

namespace FloatLayout

/-- The number `digits · 10 ^ exponent` with a decimal point, and at least one digit on both sides
of it. -/
def positional (digits : List Char) (exponent : Int) : List Char :=
  let leading : Int := exponent + digits.length
  -- A whole number is still marked as a double.
  if 0 ≤ exponent then digits ++ List.replicate exponent.toNat '0' ++ ['.', '0']
  else if 0 < leading then digits.take leading.toNat ++ '.' :: digits.drop leading.toNat
  else '0' :: '.' :: List.replicate (-leading).toNat '0' ++ digits

/-- One digit, a fraction if more are left, and a signed exponent. -/
def scientific (digits : List Char) (leading : Int) : List Char :=
  let fraction := digits.drop 1
  let mark := if 0 ≤ leading then ['e', '+'] else ['e', '-']
  digits.take 1 ++ (if fraction.isEmpty then [] else '.' :: fraction) ++ mark
    ++ natChars leading.natAbs

/-- A decimal in the form its exponent asks for, `positional` or `scientific`. -/
def decimal (layout : FloatLayout) (d : Decimal) : List Char :=
  let digits := natChars d.digits
  -- The power of ten of the first digit.
  let leading := d.exponent + digits.length - 1
  if layout.least ≤ leading ∧ leading ≤ layout.greatest then positional digits d.exponent
  else scientific digits leading

/-- The text of a finite double by `Decimal.shortest`; zero keeps its sign. -/
def chars (layout : FloatLayout) (x : Float) : List Char :=
  -- All bits but the sign.
  let magnitude : UInt64 := x.toBits % 0x8000000000000000
  let sign := if x.toBits = magnitude then [] else ['-']
  sign ++ (if magnitude = 0 then ['0', '.', '0'] else layout.decimal (Decimal.shortest magnitude))

end FloatLayout

/-- The text of a number; a double is laid out by `FloatLayout.standard`. -/
def Number.chars : Number → List Char
  | .int n => intChars n
  | .float x => FloatLayout.standard.chars x

/-- Numerical sameness within a kind: zeros of both signs agree, an integer is never a double. -/
def Number.same : Number → Number → Bool
  | .int a, .int b => a = b
  | .float a, .float b => a == b
  | _, _ => false

end HttpStub.Json
