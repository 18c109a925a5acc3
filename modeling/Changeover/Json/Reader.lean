import Changeover.Decimal.Read
import Changeover.Json
import Changeover.Table

/-!
# Reading JSON

One value with blanks around it. A number with a point or an exponent is binary and any other is whole; it
has no zero in front and digits on both sides of its point. The words for what is no number or not finite
are read too. Of two members of one name the later one counts. Characters above the first plane are written
as a pair of escapes.
-/

namespace Changeover.Json

open Text

/-- What follows the blanks. -/
def skip (s : List Char) : List Char :=
  s.dropWhile fun c => c == ' ' || c == '\t' || c == '\n' || c == '\r'

/-- The number of four hexadecimal digits. -/
def hex4? (a b c d : Char) : Option Nat := do
  return (((← Hex.value? a) * 16 + (← Hex.value? b)) * 16 + (← Hex.value? c)) * 16 + (← Hex.value? d)

/-- The character that a short escape stands for. -/
def escaped? (c : Char) : Option Char :=
  if c == '"' || c == '\\' || c == '/' then some c
  else if c == 'b' then some (Char.ofNat 8)
  else if c == 'f' then some (Char.ofNat 12)
  else if c == 'n' then some '\n'
  else if c == 'r' then some '\r'
  else if c == 't' then some '\t'
  else none

/-- The character of an escape, or the first half of a pair that it opens. -/
def unit? (opened : Option Nat) (n : Nat) : Option (Option Char × Option Nat) :=
  let isFirst := 0xD800 ≤ n && n < 0xDC00
  let isSecond := 0xDC00 ≤ n && n < 0xE000
  match opened with
  | none =>
    if isFirst then some (none, some n)
    else if isSecond then none
    else some (some (Char.ofNat n), none)
  | some h =>
    if isSecond then some (some (Char.ofNat (0x10000 + (h - 0xD800) * 1024 + (n - 0xDC00))), none)
    else none

/-- Reads the rest of a text after its first characters, which are kept backwards, and after the first
half of a pair that has been opened. -/
def textFrom (read : List Char) (opened : Option Nat) : List Char → Option (String × List Char)
  | [] => none
  | '"' :: r => if opened.isNone then some (String.ofList read.reverse, r) else none
  | '\\' :: 'u' :: a :: b :: c :: d :: r =>
    match (hex4? a b c d).bind (unit? opened) with
    | some (x, opened') => textFrom (x.toList ++ read) opened' r
    | none => none
  | '\\' :: c :: r =>
    match escaped? c, opened with
    | some x, none => textFrom (x :: read) none r
    | _, _ => none
  | c :: r => if opened.isNone && 0x20 ≤ c.toNat then textFrom (c :: read) none r else none

/-- The characters of a number. -/
def isNumberChar (c : Char) : Bool :=
  c.isDigit || c == '-' || c == '+' || c == '.' || c == 'e' || c == 'E'

/-- The minus sign of a number and what follows it. -/
def minus : List Char → Bool × List Char
  | '-' :: r => (true, r)
  | r => (false, r)

/-- Whether digits write a whole number: there are some, and none but the only one is a zero in front. -/
def isWhole (ds : List Char) : Bool := !ds.isEmpty && (ds.head? != some '0' || ds.length == 1)

/-- Whether a point, if there is one, has a digit after it. -/
def isPointed : List Char → Bool
  | '.' :: r => r.head?.any Char.isDigit
  | _ => true

/-- The value of the text of a number. -/
def number? (s : List Char) : Option Json :=
  let (negative, body) := minus s
  let whole := body.takeWhile Char.isDigit
  let suffix := body.dropWhile Char.isDigit
  if !isWhole whole then none
  else if suffix.isEmpty then
    some (.int (if negative then -(Decimal.natOf whole : Int) else Decimal.natOf whole))
  else if isPointed suffix then
    (Decimal.unsigned? body).map fun x => .float (if negative then -x else x)
  else none

/-- The words that stand for values. -/
def words : List (String × Json) :=
  [("null", .null), ("true", .bool true), ("false", .bool false), ("NaN", .float Decimal.notANumber),
    ("Infinity", .float Decimal.infinity), ("-Infinity", .float (-Decimal.infinity))]

/-- Reads a number or a word. -/
def scalar? (s : List Char) : Option (Json × List Char) :=
  match words.find? fun w => w.1.toList.isPrefixOf s with
  | some (w, v) => some (v, s.drop w.length)
  | none => (number? (s.takeWhile isNumberChar)).map fun v => (v, s.dropWhile isNumberChar)

mutual

/-- Reads a value, with `fuel` for its depth and length. -/
def value? : Nat → List Char → Option (Json × List Char)
  | 0, _ => none
  | fuel + 1, s =>
    match s with
    | '"' :: r => (textFrom [] none r).map fun p => (.text p.1, p.2)
    | '[' :: r =>
      match skip r with
      | ']' :: r' => some (.array [], r')
      | r' => (items? fuel [] r').map fun p => (.array p.1, p.2)
    | c :: r =>
      if c == '\x7b' then
        match skip r with
        | '\x7d' :: r' => some (.object [], r')
        | r' => (members? fuel [] r').map fun p => (.object (Table.ofEntries p.1), p.2)
      else scalar? s
    | [] => none

/-- Reads the rest of an array after its first items, which are kept backwards. -/
def items? : Nat → List Json → List Char → Option (List Json × List Char)
  | 0, _, _ => none
  | fuel + 1, read, s =>
    match value? fuel s with
    | none => none
    | some (v, r) =>
      match skip r with
      | ',' :: r' => items? fuel (v :: read) (skip r')
      | ']' :: r' => some ((v :: read).reverse, r')
      | _ => none

/-- Reads the rest of an object after its first members, which are kept backwards. -/
def members? : Nat → List (String × Json) → List Char → Option (List (String × Json) × List Char)
  | 0, _, _ => none
  | fuel + 1, read, s =>
    match s with
    | '"' :: r =>
      match (textFrom [] none r).map fun p => (p.1, skip p.2) with
      | some (k, ':' :: r₁) =>
        match value? fuel (skip r₁) with
        | none => none
        | some (v, r₂) =>
          match skip r₂ with
          | ',' :: r₃ => members? fuel ((k, v) :: read) (skip r₃)
          | '\x7d' :: r₃ => some (((k, v) :: read).reverse, r₃)
          | _ => none
      | _ => none
    | _ => none

end

/-- Reads a text that holds one value. -/
def read? (s : String) : Option Json :=
  let l := skip s.toList
  match value? (2 * l.length + 1) l with
  | some (v, r) => if (skip r).isEmpty then some v else none
  | none => none

end Changeover.Json
