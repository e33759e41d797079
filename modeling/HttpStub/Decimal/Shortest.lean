/-!
# Shortest decimals

A positive finite double is an integer multiple of a power of two, and the reals that round to it
form an interval around it, ends included exactly when its significand is even. `shortest` is the
point of the coarsest decimal grid that meets the interval: the fewest digits that read back, and of
two such points the nearer one, the even one on a tie. All arithmetic is on natural numbers.
-/

namespace HttpStub

/-- The number `digits · 10 ^ exponent`, as `shortest` finds it. -/
structure Decimal where
  /-- The digits, without a sign. -/
  digits : Nat
  /-- The power of ten they are taken times. -/
  exponent : Int
deriving DecidableEq

namespace Decimal

/-- The interval of reals that round to one double, as bounds on a multiple of `2 ^ scale`. -/
structure Rounding where
  /-- Four times the significand. -/
  middle : Nat
  /-- The lower end of the interval. -/
  low : Nat
  /-- The upper end of the interval. -/
  high : Nat
  /-- The power of two that the bounds are multiples of. -/
  scale : Int
  /-- Whether the ends themselves round to the double. -/
  closed : Bool
deriving DecidableEq

/-- The rounding interval of the double with the given bits, sign left out. -/
def Rounding.ofBits (bits : UInt64) : Rounding :=
  -- The lower 52 bits hold the fraction, and eleven more the exponent.
  let hidden := 0x10000000000000
  let fraction := bits.toNat % hidden
  let biased := bits.toNat / hidden % 0x800
  let significand := if biased = 0 then fraction else fraction + hidden
  let exponent : Int := (if biased = 0 then 1 else biased : Nat) - 1075
  -- Below a power of two the doubles are twice as dense, so the lower half-step is shorter there.
  { middle := 4 * significand
    low := 4 * significand - (if fraction = 0 ∧ 1 < biased then 1 else 2)
    high := 4 * significand + 2
    scale := exponent - 2
    closed := significand % 2 = 0 }

/-- The interval measured in units of `10 ^ exponent`: `bound · numerator / denominator`, for bounds
of `Rounding`. -/
def Rounding.perUnit (r : Rounding) (exponent : Int) : Nat × Nat :=
  (Nat.pow 2 r.scale.toNat * Nat.pow 10 (-exponent).toNat,
    Nat.pow 2 (-r.scale).toNat * Nat.pow 10 exponent.toNat)

/-- Whether `digits · 10 ^ exponent` rounds to the double; the ends count if the interval is
`closed`. -/
def Rounding.contains (r : Rounding) (digits : Nat) (exponent : Int) : Bool :=
  let (numerator, denominator) := r.perUnit exponent
  if r.closed then
    r.low * numerator ≤ digits * denominator && digits * denominator ≤ r.high * numerator
  else
    r.low * numerator < digits * denominator && digits * denominator < r.high * numerator

/-- The nearest point of the grid of step `10 ^ exponent` that the interval `contains`, if one of
the two neighbours is such. -/
def Rounding.onGrid? (r : Rounding) (exponent : Int) : Option Decimal :=
  let (numerator, denominator) := r.perUnit exponent
  -- The point next below the double; the comparison with the half-way point tells which is nearer.
  let below := r.middle * numerator / denominator
  let twice := 2 * r.middle * numerator
  let half := (2 * below + 1) * denominator
  let nearer := if twice < half then below
    else if half < twice then below + 1
    else if below % 2 = 0 then below else below + 1
  let farther := if nearer = below then below + 1 else below
  -- The interval is not even on both sides, so the farther point may lie in it alone.
  if r.contains nearer exponent then some ⟨nearer, exponent⟩
  else if r.contains farther exponent then some ⟨farther, exponent⟩
  else none

/-- The exponents of decimal grids from coarse to fine, as `shortest` tries them; the last one is
finer than every interval. -/
def gridExponents : List Int :=
  (List.range 633).map (fun (i : Nat) => (308 : Int) - i)

/-- The shortest decimal that reads back as the double with these bits, sign left out: the first
that `Rounding.onGrid?` finds along `gridExponents`. -/
def shortest (bits : UInt64) : Decimal :=
  (gridExponents.findSome? (Rounding.ofBits bits).onGrid?).getD ⟨0, 0⟩

end Decimal

end HttpStub
