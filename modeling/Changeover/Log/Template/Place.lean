import Changeover.Log.Template.Arguments

/-!
# Places in messages

What stands after a `%`: an optional key in parentheses, flags, a width, a precision after a point, a
letter for the size of a number that says nothing, and the letter of the conversion. A width or a
precision may be `*`, which takes an argument.
-/

namespace Changeover.Log.Template

/-- How a value is laid out at its place. -/
structure Layout where
  left : Bool := false
  /-- Whether a number that is not negative has a plus sign. -/
  signed : Bool := false
  /-- Whether it has a blank instead. -/
  blank : Bool := false
  /-- Whether the fuller form of a number is asked for. -/
  full : Bool := false
  zeros : Bool := false
  width : Nat := 0
  precision : Option Nat := none

/-- A place: a layout and the letter of a conversion. -/
structure Place where
  layout : Layout
  letter : Char

/-- A key up to the parenthesis that closes it, after `depth` other ones, and what follows; what has
been read of it is kept backwards. -/
def keyFrom (read : List Char) (depth : Nat) : List Char → Option (List Char × List Char)
  | [] => none
  | c :: r =>
    if c == ')' && depth == 0 then some (read.reverse, r)
    else keyFrom (c :: read) (if c == ')' then depth - 1 else if c == '(' then depth + 1 else depth) r

/-- The arguments after a key, if there is one, and what follows it. -/
def key (a : Arguments) (s : List Char) : Except Fault (Arguments × List Char) :=
  match s with
  | '(' :: r =>
    if a.named.isNone then .error .needsObject
    else
      match keyFrom [] 0 r with
      | none => .error .openKey
      | some (k, rest) => (a.select (String.ofList k)).map fun a' => (a', rest)
  | _ => .ok (a, s)

/-- Adds a flag. -/
def Layout.flag? (l : Layout) (c : Char) : Option Layout :=
  if c == '-' then some { l with left := true }
  else if c == '+' then some { l with signed := true }
  else if c == ' ' then some { l with blank := true }
  else if c == '#' then some { l with full := true }
  else if c == '0' then some { l with zeros := true }
  else none

/-- Reads flags. -/
def flags (l : Layout) : List Char → Layout × List Char
  | [] => (l, [])
  | c :: r =>
    match l.flag? c with
    | some l' => flags l' r
    | none => (l, c :: r)

/-- Reads digits as long as the number is no larger than `limit`; nothing when it gets larger. -/
def countFrom (limit n : Nat) : List Char → Option (Nat × List Char)
  | [] => some (n, [])
  | c :: r =>
    if !c.isDigit then some (n, c :: r)
    else
      let n' := 10 * n + (c.toNat - 48)
      if limit < n' then none else countFrom limit n' r

/-- The argument that a `*` takes, which must be whole and within the range of a word of `kind` up to
`limit`. -/
def asked (kind : String) (limit : Nat) (a : Arguments) : Except Fault (Int × Arguments) := do
  let (v, a') ← a.next
  let n ← match v with
    | .int n => .ok n
    | .bool b => .ok (if b then 1 else 0)
    | _ => .error .countNotWhole
  if n < -(limit : Int) - 1 || (limit : Int) < n then .error (.countOverflow kind) else .ok (n, a')

/-- The largest width. -/
def maxWidth : Nat := 9223372036854775807

/-- The largest precision. -/
def maxPrecision : Nat := 2147483647

/-- Reads a width; a negative argument asks for the left, and one without a positive counterpart for no
width at all. -/
def width (l : Layout) (a : Arguments) (s : List Char) :
    Except Fault (Layout × Arguments × List Char) :=
  match s with
  | '*' :: r => do
    let (n, a') ← asked "ssize_t" maxWidth a
    let width := if maxWidth < n.natAbs then 0 else n.natAbs
    return ({ l with left := l.left || n < 0, width }, a', r)
  | _ =>
    match countFrom maxWidth 0 s with
    | some (n, r) => .ok ({ l with width := n }, a, r)
    | none => .error .wideWidth

/-- Reads a precision; a negative argument counts as zero, and so does a point by itself. -/
def precision (l : Layout) (a : Arguments) (s : List Char) :
    Except Fault (Layout × Arguments × List Char) :=
  match s with
  | '.' :: '*' :: r => do
    let (n, a') ← asked "int" maxPrecision a
    return ({ l with precision := some n.toNat }, a', r)
  | '.' :: r =>
    match countFrom maxPrecision 0 r with
    | some (n, rest) => .ok ({ l with precision := some n }, a, rest)
    | none => .error .widePrecision
  | _ => .ok (l, a, s)

/-- The text without the letter for the size of a number. -/
def skipSize : List Char → List Char
  | c :: r => if c == 'h' || c == 'l' || c == 'L' then r else c :: r
  | [] => []

/-- Reads the place after a `%`, with the arguments left and what follows. -/
def place (a : Arguments) (s : List Char) : Except Fault (Place × Arguments × List Char) := do
  let (a₁, s₁) ← key a s
  let (l, s₂) := flags {} s₁
  let (l₁, a₂, s₃) ← width l a₁ s₂
  let (layout, a₃, s₄) ← precision l₁ a₂ s₃
  match skipSize s₄ with
  | letter :: rest => return ({ layout, letter }, a₃, rest)
  | [] => .error .unfinished

end Changeover.Log.Template
