import Changeover.Decimal.Shortest

/-!
# Decimals of a given length

The number `m * 2 ^ q` with a given count of places after the point, or with a given count of digits
after the first one. Rounding is exact: a half goes to the even neighbour.
-/

namespace Changeover.Decimal

/-- The whole number nearest to a fraction; a half goes to the even neighbour. -/
def roundDiv (num den : Nat) : Nat :=
  let c := num / den
  let twice := 2 * (num % den)
  if den < twice || (den == twice && c % 2 == 1) then c + 1 else c

/-- A positive fraction. -/
structure Fraction where
  num : Nat
  den : Nat

/-- The fraction `m * 2 ^ q`. -/
def Fraction.ofBinary (m : Nat) (q : Int) : Fraction := ⟨m * pow2 q.toNat, pow2 (-q).toNat⟩

/-- The fraction times `10 ^ k`, rounded. -/
def Fraction.scaledBy (x : Fraction) (k : Int) : Nat :=
  roundDiv (x.num * pow10 k.toNat) (x.den * pow10 (-k).toNat)

/-- The exponent of the first decimal digit. -/
def Fraction.magnitude (x : Fraction) : Int :=
  if x.den ≤ x.num then (digitCount 400 (x.num / x.den) : Int) - 1
  else -(leadingZeros 400 x.num x.den : Int)

/-- The first digit with `n` digits after it, and the exponent of the first digit. -/
def Fraction.leading (x : Fraction) (n : Nat) : Nat × Int :=
  if x.num == 0 then (0, 0)
  else
    let e := x.magnitude
    let c := x.scaledBy (n - e)
    if c == pow10 (n + 1) then (c / 10, e + 1) else (c, e)

/-- The digits of a number, with zeros before them up to a length. -/
def paddedDigits (length n : Nat) : List Char :=
  let ds := digits n
  zeros (length - ds.length) ++ ds

/-- Digits after a point; without digits the point is written only when asked for. -/
def afterPoint (keepPoint : Bool) (ds : List Char) : List Char :=
  if ds.isEmpty && !keepPoint then [] else '.' :: ds

/-- The digits without zeros at their end. -/
def withoutZeros (ds : List Char) : List Char := (ds.reverse.dropWhile (· == '0')).reverse

/-- A fraction with `n` places after the point. -/
def Fraction.fixedParts (x : Fraction) (n : Nat) : List Char × List Char :=
  let ds := paddedDigits (n + 1) (x.scaledBy n)
  (ds.take (ds.length - n), ds.drop (ds.length - n))

/-- How a number of a given length is written. -/
structure Manner where
  /-- The count of places, or of all digits where the manner is chosen by size. -/
  precision : Nat
  /-- Whether the point and zeros at the end are kept. -/
  full : Bool

/-- With a fixed count of places. -/
def Fraction.fixed (x : Fraction) (w : Manner) : List Char :=
  let (whole, part) := x.fixedParts w.precision
  whole ++ afterPoint w.full part

/-- With one digit before the point and an exponent. -/
def Fraction.scientific (x : Fraction) (w : Manner) : List Char :=
  let (c, e) := x.leading w.precision
  let ds := paddedDigits (w.precision + 1) c
  ds.take 1 ++ afterPoint w.full (ds.drop 1) ++ exponentText e

/-- With a count of digits: positional while the exponent is at least minus four and smaller than that
count. Zeros at the end are dropped unless the manner is full. -/
def Fraction.general (x : Fraction) (w : Manner) : List Char :=
  let p := if w.precision == 0 then 1 else w.precision
  let (c, e) := x.leading (p - 1)
  let trimmed (ds : List Char) : List Char := if w.full then ds else withoutZeros ds
  if e < -4 || p ≤ e then
    let ds := paddedDigits p c
    ds.take 1 ++ afterPoint w.full (trimmed (ds.drop 1)) ++ exponentText e
  else
    let (whole, part) := x.fixedParts (p - 1 - e).toNat
    whole ++ afterPoint w.full (trimmed part)

/-- The whole part of `m * 2 ^ q`. -/
def wholePart (m : Nat) (q : Int) : Nat :=
  let x := Fraction.ofBinary m q
  x.num / x.den

end Changeover.Decimal
