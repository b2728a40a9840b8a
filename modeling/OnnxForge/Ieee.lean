/-!
# Binary interchange formats

Floating point numbers as bit patterns. A pattern is a sign, an exponent field and
a fraction field; `Format.value` reads it as a whole number times a power of two,
and `Format.round` goes back, to the nearest pattern and to the even one of two
equally near.
-/

namespace OnnxForge.Ieee

/-- The widths of the two fields below the sign. -/
structure Format where
  exponentBits : Nat
  fractionBits : Nat
deriving DecidableEq

/-- Sixteen bits, eleven of precision. -/
def half : Format := ⟨5, 10⟩

/-- Thirty-two bits, twenty-four of precision. -/
def single : Format := ⟨8, 23⟩

/-- Sixty-four bits, fifty-three of precision. -/
def double : Format := ⟨11, 52⟩

/-- What a pattern stands for. -/
inductive Value
  | nan
  | infinite (negative : Bool)
  /-- The number `significand · 2 ^ exponent`, or its opposite. -/
  | finite (negative : Bool) (significand : Nat) (exponent : Int)
deriving DecidableEq

namespace Format

/-- The sign bit of a pattern. -/
def negative (format : Format) (bits : Nat) : Bool :=
  decide (bits / Nat.pow 2 (format.exponentBits + format.fractionBits) % 2 = 1)

/-- The exponent field of a pattern. -/
def exponentField (format : Format) (bits : Nat) : Nat :=
  bits / Nat.pow 2 format.fractionBits % Nat.pow 2 format.exponentBits

/-- The fraction field of a pattern. -/
def fractionField (format : Format) (bits : Nat) : Nat :=
  bits % Nat.pow 2 format.fractionBits

/-- The exponent of the least positive number. -/
def leastExponent (format : Format) : Int :=
  2 - Nat.pow 2 (format.exponentBits - 1) - format.fractionBits

/-- The number or other value that a pattern stands for. -/
def value (format : Format) (bits : Nat) : Value :=
  let field := format.exponentField bits
  let fraction := format.fractionField bits
  if field = Nat.pow 2 format.exponentBits - 1 then
    if fraction = 0 then .infinite (format.negative bits) else .nan
  else if field = 0 then
    .finite (format.negative bits) fraction format.leastExponent
  else
    .finite (format.negative bits) (Nat.pow 2 format.fractionBits + fraction)
      (format.leastExponent + (field - 1 : Nat))

/-- The quotient `number / 2 ^ shift` to the nearest whole number, ties to even. -/
def halfEven (number shift : Nat) : Nat :=
  let quotient := number / Nat.pow 2 shift
  let remainder := number % Nat.pow 2 shift
  if 2 * remainder < Nat.pow 2 shift then quotient
  else if 2 * remainder = Nat.pow 2 shift then quotient + quotient % 2
  else quotient + 1

/-- The pattern of a signed infinity. -/
def infinity (format : Format) (negative : Bool) : Nat :=
  (if negative then Nat.pow 2 (format.exponentBits + format.fractionBits) else 0) +
    (Nat.pow 2 format.exponentBits - 1) * Nat.pow 2 format.fractionBits

/-- The pattern nearest to `significand · 2 ^ exponent`. -/
def round (format : Format) (negative : Bool) (significand : Nat) (exponent : Int) : Nat :=
  let sign := if negative then Nat.pow 2 (format.exponentBits + format.fractionBits) else 0
  if significand = 0 then sign
  else
    let top := exponent + (Nat.log2 significand : Nat)
    let unit := max (top - format.fractionBits) format.leastExponent
    let scaled :=
      if unit ≤ exponent then significand * Nat.pow 2 (exponent - unit).toNat
      else halfEven significand (unit - exponent).toNat
    let magnitude := (unit - format.leastExponent).toNat * Nat.pow 2 format.fractionBits + scaled
    if (Nat.pow 2 format.exponentBits - 1) * Nat.pow 2 format.fractionBits ≤ magnitude then
      format.infinity negative
    else sign + magnitude

end Format

/-- The single precision pattern of the same value as a half precision pattern, every
half precision number being one of single precision. -/
def singleOfHalf (bits : UInt16) : UInt32 :=
  match half.value bits.toNat with
  | .nan =>
    UInt32.ofNat ((if half.negative bits.toNat then 0x80000000 else 0) + 0x7FC00000 +
      half.fractionField bits.toNat % 0x200 * 0x2000)
  | .infinite negative => UInt32.ofNat (single.infinity negative)
  | .finite negative significand exponent =>
    UInt32.ofNat (single.round negative significand exponent)

/-- The single precision pattern nearest to a double precision pattern. A NaN keeps the
upper bits of its fraction and becomes quiet. -/
def singleOfDouble (bits : UInt64) : UInt32 :=
  match double.value bits.toNat with
  | .nan =>
    UInt32.ofNat ((if double.negative bits.toNat then 0x80000000 else 0) + 0x7FC00000 +
      double.fractionField bits.toNat / 0x20000000 % 0x400000)
  | .infinite negative => UInt32.ofNat (single.infinity negative)
  | .finite negative significand exponent =>
    UInt32.ofNat (single.round negative significand exponent)

end OnnxForge.Ieee
