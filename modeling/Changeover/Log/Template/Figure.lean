import Changeover.Decimal.Read
import Changeover.Decimal.Rounded
import Changeover.Log.Template.Place
import Changeover.Log.Template.Shown

/-!
# Values at their places

What a value looks like at its place: a sign, a mark of the base and a body, which are padded to the
width. Zeros pad a number between mark and body; blanks pad before the sign or after the body.
-/

namespace Changeover.Log.Template

open Text

/-- A value before it is padded. -/
structure Figure where
  sign : List Char := []
  mark : List Char := []
  body : List Char
  numeric : Bool := true

/-- The sign of a number. -/
def Layout.sign (l : Layout) (negative : Bool) : List Char :=
  if negative then ['-'] else if l.signed then ['+'] else if l.blank then [' '] else []

/-- The figure padded to the width. -/
def Figure.pad (f : Figure) (l : Layout) : List Char :=
  let room := l.width - (f.sign.length + f.mark.length + f.body.length)
  if l.left then f.sign ++ f.mark ++ f.body ++ List.replicate room ' '
  else if f.numeric && l.zeros then f.sign ++ f.mark ++ List.replicate room '0' ++ f.body
  else List.replicate room ' ' ++ f.sign ++ f.mark ++ f.body

/-- The longest result that is worked out. -/
def maxLength : Nat := 100000000

/-- A text at its place, cut to the precision. -/
def Figure.ofText (l : Layout) (s : List Char) : Figure :=
  { body := l.precision.elim s fun n => s.take n, numeric := false }

/-- The base of a letter. -/
def baseOf (letter : Char) : Nat :=
  if letter == 'o' then 8 else if letter == 'x' || letter == 'X' then 16 else 10

/-- Text with the letters from `a` to `z` as capitals, if asked for. -/
def inCapitals (capitals : Bool) (s : List Char) : List Char :=
  if capitals then s.map Char.toUpper else s

/-- A whole number at its place, with at least as many digits as the precision says. -/
def Figure.ofInt (l : Layout) (letter : Char) (n : Int) : Except Fault Figure :=
  let least := l.precision.getD 0
  if maxPrecision < least + 3 then .error .longPrecision
  else if maxLength < least then .error .tooLong
  else
    let ds := inCapitals (letter == 'X') (Nat.toDigits (baseOf letter) n.natAbs)
    .ok {
      sign := l.sign (n < 0)
      mark := if l.full && baseOf letter != 10 then ['0', letter] else []
      body := List.replicate (least - ds.length) '0' ++ ds }

/-- The whole number that a value stands for: a binary number is cut toward zero, unless the letter
asks for a whole one. -/
def wholeOf (letter : Char) : Json → Except Fault Int
  | .bool b => .ok (if b then 1 else 0)
  | .int n => .ok n
  | .float x =>
    if baseOf letter != 10 then .error (.notWhole letter "float")
    else
      match Decimal.shape x with
      | (_, .nan) => .error .notANumber
      | (_, .infinite) => .error .infinite
      | (negative, .finite m q) =>
        .ok (if negative then -(Decimal.wholePart m q : Int) else Decimal.wholePart m q)
  | v =>
    if baseOf letter != 10 then .error (.notWhole letter (typeName v))
    else .error (.notReal letter (typeName v))

/-- The binary number that a value stands for. -/
def floatOf : Json → Except Fault Float
  | .bool b => .ok (if b then 1.0 else 0.0)
  | .int n =>
    let x := Decimal.ofInt n
    if x.isInf then .error .floatOverflow else .ok x
  | .float x => .ok x
  | v => .error (.notFloat (typeName v))

/-- The digits of a number as the letter asks for them. -/
def digitsOf (letter : Char) (x : Decimal.Fraction) (w : Decimal.Manner) : List Char :=
  if letter == 'e' || letter == 'E' then x.scientific w
  else if letter == 'f' || letter == 'F' then x.fixed w
  else x.general w

/-- The sign and the digits of a binary number, or the word for what is no finite one. -/
def floatParts (l : Layout) (letter : Char) (w : Decimal.Manner) (x : Float) :
    List Char × List Char :=
  match Decimal.shape x with
  | (_, .nan) => (l.sign false, "nan".toList)
  | (negative, .infinite) => (l.sign negative, "inf".toList)
  | (negative, .finite m q) => (l.sign negative, digitsOf letter (.ofBinary m q) w)

/-- A number of digits that no binary number exceeds. -/
def allDigits : Nat := 1100

/-- How a binary number is written; without a precision it has six digits. Where zeros at the end are
dropped, more digits than any number has change nothing. -/
def Layout.manner (l : Layout) (letter : Char) : Decimal.Manner :=
  let n := l.precision.getD 6
  let drops := (letter == 'g' || letter == 'G') && !l.full
  { precision := if drops then min n allDigits else n, full := l.full }

/-- A binary number at its place. -/
def Figure.ofFloat (l : Layout) (letter : Char) (x : Float) : Except Fault Figure :=
  let w := l.manner letter
  if maxLength < w.precision then .error .tooLong
  else
    let (sign, body) := floatParts l letter w x
    .ok { sign, body := inCapitals (letter == 'E' || letter == 'F' || letter == 'G') body }

/-- The character that a value stands for. -/
def characterOf : Json → Except Fault Char
  | .text s =>
    match s.toList with
    | [c] => .ok c
    | _ => .error .notCharacter
  | .int n => if 0 ≤ n && n < 0x110000 then .ok (Char.ofNat n.toNat) else .error .characterRange
  | .bool b => .ok (Char.ofNat (if b then 1 else 0))
  | _ => .error .notCharacter

/-- A value as a place asks for it; `position` is that of the letter. -/
def figure (p : Place) (position : Nat) (v : Json) : Except Fault Figure :=
  let c := p.letter
  if c == 's' then .ok (.ofText p.layout (plain v))
  else if c == 'r' then .ok (.ofText p.layout (shown v))
  else if c == 'a' then .ok (.ofText p.layout (shownAscii v))
  else if c == 'c' then (characterOf v).map fun x => { body := [x], numeric := false }
  else if "diuoxX".toList.contains c then do
    let n ← wholeOf c v
    Figure.ofInt p.layout c n
  else if "eEfFgG".toList.contains c then do
    let x ← floatOf v
    Figure.ofFloat p.layout c x
  else .error (.unknownLetter c position)

/-- The text of a value at its place. -/
def convert (p : Place) (position : Nat) (v : Json) : Except Fault (List Char) := do
  let f ← figure p position v
  if maxLength < p.layout.width then .error .tooLong else return f.pad p.layout

end Changeover.Log.Template
