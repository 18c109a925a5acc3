import Changeover.Text.Canonical.Table

/-!
# Canonical composition

A letter with marks can be written in several ways that mean the same. In the composed form marks stand
in the order of their places, and a letter is one character with as many of its marks as there is a
character for. The form is worked out by taking every letter apart, sorting the marks and putting
letters together again.
-/

namespace Changeover.Text.Canonical

/-- The place of a mark; zero for what is no mark. -/
def placeOf (c : Nat) : Nat :=
  match placeRanges.find? fun (lo, hi, _) => lo ≤ c && c ≤ hi with
  | some (_, _, place) => place
  | none => 0

/-- The parts of a character, of which the first may have parts in turn, down to a depth. -/
def parts : Nat → Nat → List Nat
  | 0, c => [c]
  | depth + 1, c =>
    match pairs.lookup c with
    | some (a, b) => parts depth a ++ [b]
    | none => [c]

/-- Puts a mark behind the last one, within a run of marks that is given backwards, whose place is not
beyond its own. -/
def insertMark (place c : Nat) : List Nat → List Nat
  | [] => [c]
  | d :: r => if place < placeOf d then d :: insertMark place c r else c :: d :: r

/-- The text with each run of marks in the order of their places; what has been read is kept
backwards. -/
def sortFrom (read : List Nat) : List Nat → List Nat
  | [] => read.reverse
  | c :: r =>
    let place := placeOf c
    sortFrom (if place == 0 then c :: read else insertMark place c read) r

/-- The character that two become. -/
def joined? (a b : Nat) : Option Nat := (pairs.find? fun p => p.2 == (a, b)).map (·.1)

/-- A letter and the marks behind it, which are kept backwards. -/
structure Cluster where
  letter : Nat
  marks : List Nat := []

/-- The characters of a cluster. -/
def Cluster.toList (x : Cluster) : List Nat := x.letter :: x.marks.reverse

/-- Adds a character to a cluster if it joins the letter: no mark of the same place and nothing but
marks may stand between them. -/
def Cluster.join? (x : Cluster) (c : Nat) : Option Cluster :=
  match x.marks with
  | [] => (joined? x.letter c).map fun a => { x with letter := a }
  | d :: _ =>
    if placeOf d < placeOf c then (joined? x.letter c).map fun a => { x with letter := a } else none

/-- The text with its letters put together; `begun` is the cluster that has begun. -/
def composeFrom (begun : Option Cluster) : List Nat → List Nat
  | [] => (begun.map Cluster.toList).getD []
  | c :: r =>
    match begun with
    | none => if placeOf c == 0 then composeFrom (some { letter := c }) r else c :: composeFrom none r
    | some x =>
      match x.join? c with
      | some x' => composeFrom (some x') r
      | none =>
        if placeOf c == 0 then x.toList ++ composeFrom (some { letter := c }) r
        else composeFrom (some { x with marks := c :: x.marks }) r

/-- The composed form of a text. -/
def compose (s : List Nat) : List Nat := composeFrom none (sortFrom [] (s.flatMap (parts 4)))

/-- Whether a text is in its composed form. -/
def isComposed (s : List Char) : Bool :=
  let codes := s.map Char.toNat
  compose codes == codes

end Changeover.Text.Canonical
