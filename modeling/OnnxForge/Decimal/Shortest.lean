import OnnxForge.Ieee

/-!
# Shortest decimals

The decimal with the fewest digits that still rounds to a given floating point
number, and of those the nearest to it. The numbers that round to `m · 2 ^ q` fill
the interval between the midpoints to its two neighbours; the ends belong to it when
`m` is even. On the grid of the multiples of a power of ten the only candidates are
the two points around the number, so the search tries one grid after another, the
coarsest first.
-/

namespace OnnxForge

/-- The number `digits · 10 ^ exponent`. -/
structure Decimal where
  digits : Nat
  exponent : Int
deriving DecidableEq

namespace Decimal

/-- A number and the ends of the interval that rounds to it, over one denominator. -/
structure Interval where
  low : Nat
  number : Nat
  high : Nat
  denominator : Nat
  /-- Whether the ends round to the number too. -/
  closed : Bool

/-- The interval that rounds to `significand · 2 ^ exponent`. Below a power of two the
neighbour is half as far, unless the numbers there are as dense as they get. -/
def Interval.ofBinary (format : Ieee.Format) (significand : Nat) (exponent : Int) : Interval :=
  let narrow := decide (significand = Nat.pow 2 format.fractionBits) &&
    decide (format.leastExponent < exponent)
  let scale := if 0 ≤ exponent then Nat.pow 2 exponent.toNat else 1
  { low := (4 * significand - if narrow then 1 else 2) * scale
    number := 4 * significand * scale
    high := (4 * significand + 2) * scale
    denominator := 4 * if 0 ≤ exponent then 1 else Nat.pow 2 (-exponent).toNat
    closed := decide (significand % 2 = 0) }

namespace Interval

/-- Whether `numerator / denominator` lies in the interval. -/
def holds (interval : Interval) (numerator : Nat) : Bool :=
  if interval.closed then
    decide (interval.low ≤ numerator) && decide (numerator ≤ interval.high)
  else decide (interval.low < numerator) && decide (numerator < interval.high)

/-- The point of the grid of multiples of `10 ^ exponent` that lies in the interval,
the nearer one if there are two, and the upper one if they are equally near. -/
def gridPoint? (interval : Interval) (exponent : Int) : Option Nat :=
  let up := if 0 ≤ exponent then Nat.pow 10 exponent.toNat else 1
  let down := if 0 ≤ exponent then 1 else Nat.pow 10 (-exponent).toNat
  let scaled : Interval :=
    { interval with
      low := interval.low * down
      number := interval.number * down
      high := interval.high * down }
  let step := interval.denominator * up
  let below := scaled.number / step
  let remainder := scaled.number % step
  let lowerHolds := scaled.holds (below * step)
  let upperHolds := scaled.holds ((below + 1) * step)
  if lowerHolds && (!upperHolds || decide (2 * remainder < step)) then some below
  else if upperHolds then some (below + 1)
  else none

/-- The first hit on the grids from `10 ^ exponent` downwards, at most `grids` of them. -/
def search (interval : Interval) : (grids : Nat) → (exponent : Int) → Decimal
  | 0, exponent => ⟨interval.number / interval.denominator, exponent⟩
  | grids + 1, exponent =>
    match interval.gridPoint? exponent with
    | some digits => ⟨digits, exponent⟩
    | none => search interval grids (exponent - 1)

end Interval

/-- A grid no finer than the coarsest that can hold a number below `2 ^ bits`. -/
def startExponent (bits : Int) : Int :=
  bits * 30103 / 100000 + 1

/-- The shortest decimal that rounds to the positive number `significand · 2 ^ exponent`.
Seventeen digits always suffice for the formats in use; the grids above the first digit
and the slack of the start take a few more steps. -/
def shortest (format : Ieee.Format) (significand : Nat) (exponent : Int) : Decimal :=
  let bits := exponent + (Nat.log2 significand + 1 : Nat)
  (Interval.ofBinary format significand exponent).search 24 (startExponent bits)

end Decimal

end OnnxForge
