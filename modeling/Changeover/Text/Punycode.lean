/-!
# Text beyond ASCII in ASCII

A text is written as its ASCII characters, a hyphen and a number for each other character: how far to go
on, through all numbers of characters and all places in the text, from the character before it. The
numbers are written with digits of changing weight, which adapt to the size of the last number.
-/

namespace Changeover.Text.Punycode

/-- The digit of a number below thirty-six. -/
def digit (n : Nat) : Char := if n < 26 then Char.ofNat (97 + n) else Char.ofNat (22 + n)

/-- The number of a digit. -/
def digitValue? (c : Char) : Option Nat :=
  if 'a' ≤ c && c ≤ 'z' then some (c.toNat - 97)
  else if 'A' ≤ c && c ≤ 'Z' then some (c.toNat - 65)
  else if '0' ≤ c && c ≤ '9' then some (c.toNat - 22)
  else none

/-- The bound below which the digit at a place is the last one. -/
def threshold (place bias : Nat) : Nat :=
  let n := 36 * (place + 1) - bias
  if n < 1 then 1 else if 26 < n then 26 else n

/-- Divides a number until it is small, at most `fuel` times: what is left and how often. -/
def shrink : Nat → Nat → Nat × Nat
  | 0, n => (n, 0)
  | fuel + 1, n =>
    if n ≤ 455 then (n, 0)
    else
      let (left, times) := shrink fuel (n / 35)
      (left, times + 1)

/-- The bias after a number, when the text has `length` characters. -/
def adapt (n : Nat) (first : Bool) (length : Nat) : Nat :=
  let n := if first then n / 700 else n / 2
  let (left, times) := shrink 40 (n + n / length)
  36 * times + 36 * left / (left + 38)

/-- The digits of a number, at most `fuel` of them. -/
def numberFrom (bias : Nat) : Nat → Nat → Nat → List Char
  | 0, _, _ => []
  | fuel + 1, place, n =>
    let t := threshold place bias
    if n < t then [digit n]
    else digit (t + (n - t) % (36 - t)) :: numberFrom bias fuel (place + 1) ((n - t) / (36 - t))

/-- What is remembered between two numbers. -/
structure State where
  /-- How far to go on so far. -/
  delta : Nat := 0
  bias : Nat := 72
  /-- How many characters have been written. -/
  written : Nat
  first : Bool := true
  /-- The digits so far. -/
  output : List Char := []

/-- Passes one character of the text while the characters of number `n` are written. -/
def State.pass (n : Nat) (s : State) (c : Char) : State :=
  if c.toNat < n then { s with delta := s.delta + 1 }
  else if c.toNat == n then
    { delta := 0
      bias := adapt s.delta s.first (s.written + 1)
      written := s.written + 1
      first := false
      output := s.output ++ numberFrom s.bias 64 0 s.delta }
  else s

/-- Writes all characters of the numbers in the list, which is in increasing order; `n` is the first
number that has not been gone through. -/
def encodeFrom (text : List Char) (s : State) (n : Nat) : List Nat → List Char
  | [] => s.output
  | m :: r =>
    let s₁ := { s with delta := s.delta + (m - n) * (s.written + 1) }
    let s₂ := text.foldl (State.pass m) s₁
    encodeFrom text { s₂ with delta := s₂.delta + 1 } (m + 1) r

/-- Writes a text. -/
def encode (text : List Char) : List Char :=
  let basic := text.filter (·.toNat < 128)
  let others := (text.filter (128 ≤ ·.toNat)).map Char.toNat
  let numbers := (others.mergeSort (· ≤ ·)).eraseDups
  (if basic.isEmpty then [] else basic ++ ['-']) ++
    encodeFrom text { written := basic.length } 128 numbers

/-- Reads a number from the digit at a place on, whose weight is `weight`. -/
def readFrom (bias sum weight place : Nat) : List Char → Option (Nat × List Char)
  | [] => none
  | c :: r =>
    match digitValue? c with
    | none => none
    | some d =>
      let t := threshold place bias
      let sum := sum + d * weight
      if d < t then some (sum, r) else readFrom bias sum (weight * (36 - t)) (place + 1) r

/-- The character of a number, if there is one. -/
def character? (n : Nat) : Option Char :=
  if n < 0xD800 || (0xDFFF < n && n < 0x110000) then some (Char.ofNat n) else none

/-- Reads at most `fuel` numbers and puts their characters into the text; `from` is the place from which
the first is counted and `n` the number of the character there. -/
def decodeFrom : Nat → Nat → Nat → Nat → Bool → List Char → List Char → Option (List Char)
  | 0, _, _, _, _, text, _ | _ + 1, _, _, _, _, text, [] => some text
  | fuel + 1, n, place, bias, first, text, s =>
    match readFrom bias 0 1 0 s with
    | none => none
    | some (delta, rest) =>
      let length := text.length + 1
      let n' := n + (place + delta) / length
      let place' := (place + delta) % length
      match character? n' with
      | none => none
      | some c =>
        decodeFrom fuel n' (place' + 1) (adapt delta first length) false
          (text.take place' ++ c :: text.drop place') rest

/-- Reads a text; the ASCII characters stand before the last hyphen. -/
def decode? (s : List Char) : Option (List Char) :=
  let numbers := (s.reverse.takeWhile (· != '-')).reverse
  let basic := (s.take (s.length - numbers.length)).dropLast
  decodeFrom (numbers.length + 1) 128 0 72 true basic numbers

end Changeover.Text.Punycode
