import OnnxForge.Decimal.Shortest
import OnnxForge.Text.Numeral

/-!
# Positional numerals

Floating point numbers written with the digits of their shortest decimal and never
with an exponent. A whole number has no point, and zero keeps its sign.
-/

namespace OnnxForge.Decimal

/-- A decimal written out: zeros fill the places up to the point on either side. -/
def positional (decimal : Decimal) : String :=
  let digits := Text.natural decimal.digits
  if 0 ≤ decimal.exponent then
    digits ++ String.ofList (List.replicate decimal.exponent.toNat '0')
  else
    let places := (-decimal.exponent).toNat
    let padded := List.replicate (places + 1 - digits.length) '0' ++ digits.toList
    let whole := padded.length - places
    String.ofList (padded.take whole) ++ "." ++ String.ofList (padded.drop whole)

/-- The numeral of `significand · 2 ^ exponent`. -/
def magnitude (format : Ieee.Format) (significand : Nat) (exponent : Int) : String :=
  if significand = 0 then "0" else (shortest format significand exponent).positional

/-- The numeral of a pattern, with the names of the values that are no numbers. -/
def numeral (format : Ieee.Format) (bits : Nat) : String :=
  match format.value bits with
  | .nan => "NaN"
  | .infinite negative => if negative then "-inf" else "inf"
  | .finite negative significand exponent =>
    (if negative then "-" else "") ++ magnitude format significand exponent

/-- The numeral of a half precision pattern: the one of its single precision value. -/
def ofHalf (bits : UInt16) : String :=
  numeral Ieee.single (Ieee.singleOfHalf bits).toNat

/-- The numeral of a single precision pattern. -/
def ofSingle (bits : UInt32) : String :=
  numeral Ieee.single bits.toNat

/-- The numeral of a double precision pattern. -/
def ofDouble (bits : UInt64) : String :=
  numeral Ieee.double bits.toNat

end OnnxForge.Decimal
