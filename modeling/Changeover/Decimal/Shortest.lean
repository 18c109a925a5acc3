/-!
# The shortest decimal that reads back

A finite binary number is `m * 2 ^ q`. The numbers that round to it form an interval around it, with
its ends included when `m` is even. Of the decimals in the interval the shortest is chosen: for one
digit, two digits and so on, the neighbours of the number on that decimal grid are tried, and of two
that fit the nearer one is taken.
-/

namespace Changeover.Decimal

/-- A power of two. -/
def pow2 (n : Nat) : Nat := Nat.pow 2 n

/-- A power of ten. -/
def pow10 (n : Nat) : Nat := Nat.pow 10 n

/-- A number as text sees it. -/
inductive Shape
  | nan
  | infinite
  | finite (mantissa : Nat) (exponent : Int)

/-- The sign of a number and its magnitude. -/
def shape (x : Float) : Bool × Shape :=
  let bits : Nat := x.toBits.toNat
  let negative := bits / pow2 63 == 1
  let e : Nat := bits / pow2 52 % pow2 11
  let f : Nat := bits % pow2 52
  if e == 2047 then (negative, if f == 0 then .infinite else .nan)
  else if e == 0 then (negative, .finite f (-1074))
  else (negative, .finite (pow2 52 + f) ((e : Int) - 1075))

/-- An interval of positive fractions over a common denominator, around one of them. -/
structure Interval where
  low : Nat
  mid : Nat
  high : Nat
  den : Nat
  /-- Whether the ends belong to it. -/
  closed : Bool

/-- The numbers that round to `m * 2 ^ q`; below a power of two the numbers lie twice as dense. -/
def interval (m : Nat) (q : Int) : Interval :=
  let below := if m == pow2 52 && q != -1074 then 1 else 2
  let up := (q - 2).toNat
  let scale := pow2 up
  { low := (4 * m - below) * scale
    mid := 4 * m * scale
    high := (4 * m + 2) * scale
    den := pow2 (2 - q).toNat
    closed := m % 2 == 0 }

/-- Whether `c * 10 ^ k` lies in the interval. -/
def Interval.contains (i : Interval) (c : Nat) (k : Int) : Bool :=
  let num := c * pow10 k.toNat * i.den
  let s := pow10 (-k).toNat
  if i.closed then i.low * s ≤ num && num ≤ i.high * s else i.low * s < num && num < i.high * s

/-- The number of decimal digits of `n`, at most `fuel`. -/
def digitCount : Nat → Nat → Nat
  | 0, _ => 0
  | fuel + 1, n => if n == 0 then 0 else 1 + digitCount fuel (n / 10)

/-- How many times a fraction below one must be multiplied by ten to reach one. -/
def leadingZeros : Nat → Nat → Nat → Nat
  | 0, _, _ => 0
  | fuel + 1, num, den => if den ≤ num then 0 else 1 + leadingZeros fuel (num * 10) den

/-- The exponent of the first decimal digit of the interval's middle. -/
def Interval.magnitude (i : Interval) : Int :=
  if i.den ≤ i.mid then (digitCount 400 (i.mid / i.den) : Int) - 1
  else -(leadingZeros 400 i.mid i.den : Int)

/-- A decimal with `n` digits in the interval, if there is one: digits and exponent. -/
def Interval.withDigits? (i : Interval) (n : Nat) : Option (Nat × Int) :=
  let k := i.magnitude + 1 - n
  let num := i.mid * pow10 (-k).toNat
  let unit := i.den * pow10 k.toNat
  let c := num / unit
  let twice := 2 * (num % unit)
  let nearUp := unit < twice || (unit == twice && c % 2 == 1)
  let first := if nearUp then c + 1 else c
  let second := if nearUp then c else c + 1
  if i.contains first k then some (first, k)
  else if i.contains second k then some (second, k) else none

/-- The first decimal found with `n` digits or more, trying at most `fuel` lengths. -/
def Interval.search (i : Interval) : Nat → Nat → Nat × Int
  | 0, _ => (0, 0)
  | fuel + 1, n => (i.withDigits? n).getD (i.search fuel (n + 1))

/-- The same decimal without zeros at the end of its digits, of which at most `fuel` are dropped. -/
def dropZeros : Nat → Nat → Int → Nat × Int
  | 0, c, k => (c, k)
  | fuel + 1, c, k => if c != 0 && c % 10 == 0 then dropZeros fuel (c / 10) (k + 1) else (c, k)

/-- The shortest decimal that rounds to `m * 2 ^ q`, as digits and exponent. A neighbour may be the
power of ten above the number, whose zeros do not count. -/
def shortest (m : Nat) (q : Int) : Nat × Int :=
  let (c, k) := (interval m q).search 20 1
  dropZeros 20 c k

/-- The decimal digits of a number. -/
def digits (n : Nat) : List Char := (toString n).toList

/-- Zeros. -/
def zeros (n : Nat) : List Char := List.replicate n '0'

/-- An exponent with its sign and at least two digits. -/
def exponentText (e : Int) : List Char :=
  let ds := digits e.natAbs
  'e' :: (if e < 0 then '-' else '+') :: (zeros (2 - ds.length) ++ ds)

/-- Digits whose point stands after the first `p` of them: positional from one ten-thousandth up to
ten to the sixteenth, with an exponent outside. -/
def layout (ds : List Char) (p : Int) : List Char :=
  if p ≤ -4 || 16 < p then
    match ds with
    | [] => []
    | d :: r => d :: ((if r.isEmpty then [] else '.' :: r) ++ exponentText (p - 1))
  else if p ≤ 0 then '0' :: '.' :: (zeros (-p).toNat ++ ds)
  else if (ds.length : Int) ≤ p then ds ++ zeros (p.toNat - ds.length) ++ ['.', '0']
  else ds.take p.toNat ++ '.' :: ds.drop p.toNat

/-- The text of a magnitude. -/
def Shape.text : Shape → List Char
  | .nan => ['n', 'a', 'n']
  | .infinite => ['i', 'n', 'f']
  | .finite m q =>
    if m == 0 then ['0', '.', '0']
    else
      let (c, k) := shortest m q
      let ds := digits c
      layout ds (ds.length + k)

/-- The text of a number; a number that is none has no sign. -/
def text (x : Float) : String :=
  match shape x with
  | (_, .nan) => "nan"
  | (negative, s) => String.ofList (if negative then '-' :: s.text else s.text)

end Changeover.Decimal
