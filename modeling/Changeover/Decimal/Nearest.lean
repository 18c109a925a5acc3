import Changeover.Decimal.Rounded

/-!
# The nearest binary number

The binary number nearest to a positive fraction or to a decimal. Rounding is exact: a half goes to the
even neighbour, what is too small becomes zero and what is too large becomes infinite.
-/

namespace Changeover.Decimal

/-- The number beyond all others. -/
def infinity : Float := Float.ofBits (UInt64.ofNat (2047 * pow2 52))

/-- What is no number. -/
def notANumber : Float := Float.ofBits (UInt64.ofNat (4095 * pow2 51))

/-- The exponent of the last binary digit that is kept of a fraction: fifty-three digits are kept, or
fewer of a number that is very small. -/
def Fraction.lastBit (x : Fraction) : Int :=
  let up : Int := x.num.log2 - x.den.log2
  let reached := x.den * pow2 up.toNat ≤ x.num * pow2 (-up).toNat
  max ((if reached then up else up - 1) - 52) (-1074)

/-- The number of a fraction's nearest binary number among all that are not negative, in increasing
order. -/
def Fraction.rank (x : Fraction) : Nat :=
  let q := x.lastBit
  (q + 1074).toNat * pow2 52 + roundDiv (x.num * pow2 (-q).toNat) (x.den * pow2 q.toNat)

/-- The binary number nearest to a fraction. -/
def Fraction.nearest (x : Fraction) : Float :=
  if x.num == 0 then 0.0
  else if 2047 * pow2 52 ≤ x.rank then infinity
  else Float.ofBits (UInt64.ofNat x.rank)

/-- The number nearest to `c * 10 ^ e`. Far outside the range of numbers the power is not worked out. -/
def scaled (c : Nat) (e : Int) : Float :=
  let length : Int := (digits c).length
  if c == 0 then 0.0
  else if length + e > 400 then infinity
  else if length + e < -400 then 0.0
  else (Fraction.mk (c * pow10 e.toNat) (pow10 (-e).toNat)).nearest

/-- The number nearest to a whole one. -/
def ofInt (n : Int) : Float := if n < 0 then -scaled n.natAbs 0 else scaled n.natAbs 0

end Changeover.Decimal
