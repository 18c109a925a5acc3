import Changeover.Decimal.Nearest
import Changeover.Text.Blank

/-!
# Reading decimals

A sign may come first; `inf`, `infinity` and `nan` are read in any letter case; the digits on one side
of the point may be missing, and an exponent may follow. Text that an operator has written may stand
between white space, or else hold single underscores inside.
-/

namespace Changeover.Decimal

open Text

/-- The number that decimal digits write. -/
def natOf (ds : List Char) : Nat := ds.foldl (fun n c => 10 * n + (c.toNat - 48)) 0

/-- A sign and what follows it. -/
def sign : List Char → Bool × List Char
  | '-' :: r => (true, r)
  | '+' :: r => (false, r)
  | r => (false, r)

/-- Reads an exponent, or nothing for its absence. -/
def exponent? : List Char → Option Int
  | [] => some 0
  | c :: r =>
    if c == 'e' || c == 'E' then
      let (negative, ds) := sign r
      if ds.isEmpty || !ds.all Char.isDigit then none
      else some (if negative then -(natOf ds : Int) else natOf ds)
    else none

/-- Reads digits with an optional point and exponent. -/
def unsigned? (s : List Char) : Option Float :=
  let whole := s.takeWhile Char.isDigit
  let rest := s.dropWhile Char.isDigit
  let tail := match rest with
    | '.' :: r => r
    | _ => []
  let pointed := rest.head? == some '.'
  let fraction := tail.takeWhile Char.isDigit
  let suffix := if pointed then tail.dropWhile Char.isDigit else rest
  if whole.isEmpty && fraction.isEmpty then none
  else (exponent? suffix).map fun e => scaled (natOf (whole ++ fraction)) (e - fraction.length)

/-- Reads a number. -/
def plain? (s : List Char) : Option Float :=
  let (negative, body) := sign s
  let name := body.map Char.toLower
  let x? :=
    if name == "inf".toList || name == "infinity".toList then some infinity
    else if name == "nan".toList then some notANumber
    else unsigned? body
  x?.map fun x => if negative then -x else x

/-- Whether two underscores stand side by side. -/
def hasDoubled : List Char → Bool
  | '_' :: '_' :: _ => true
  | _ :: r => hasDoubled r
  | [] => false

/-- The text without its underscores, which may stand only singly and inside. -/
def ungroup? (s : List Char) : Option (List Char) :=
  if s.head? == some '_' || s.getLast? == some '_' || hasDoubled s then none
  else some (s.filter (· != '_'))

/-- Reads a number between white space or with underscores inside. -/
def read? (s : List Char) : Option Float :=
  plain? (trimOf isSpace s) <|> (ungroup? s).bind plain?

end Changeover.Decimal
