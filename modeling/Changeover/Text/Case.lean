import Changeover.Text.Case.Kind
import Changeover.Text.Case.Lower
import Changeover.Text.Case.Upper
import Changeover.Text.Range

/-!
# Letter case

Texts in small letters and in capitals, and words with a capital at their start. A letter may become
several (`ß` opens a word as `Ss`), so the maps of single letters give lists. The small sigma has
another form at the end of a word.
-/

namespace Changeover.Text

namespace Case

/-- The small letter of a character. -/
def lowerChar (c : Char) : List Char :=
  if c.toNat == 0x130 then ['i', Char.ofNat 0x307]
  else [((partner? lowerRanges c.toNat).map Char.ofNat).getD c]

/-- The capital letters of a character. -/
def upperChar (c : Char) : List Char :=
  match upperExpansions.lookup c.toNat with
  | some l => l.map Char.ofNat
  | none => [((partner? upperRanges c.toNat).map Char.ofNat).getD c]

/-- The form of a character at the start of a word. -/
def titleChar (c : Char) : List Char :=
  match titleExpansions.lookup c.toNat, partner? titleRanges c.toNat with
  | some l, _ => l.map Char.ofNat
  | none, some n => [Char.ofNat n]
  | none, none => upperChar c

/-- The capital sigma, whose small letter depends on its place. -/
def sigma : Char := Char.ofNat 0x3A3

/-- Whether the next character that is not passed over has letter case. -/
def meetsCased (s : List Char) : Bool :=
  match s.dropWhile fun c => inRanges ignoredRanges c.toNat with
  | c :: _ => inRanges casedRanges c.toNat
  | [] => false

/-- The rest of a text in small letters; what stands before it is given backwards. -/
def lowerFrom (before : List Char) : List Char → List Char
  | [] => []
  | c :: r =>
    let small :=
      if c == sigma then [Char.ofNat (if meetsCased before && !meetsCased r then 0x3C2 else 0x3C3)]
      else lowerChar c
    small ++ lowerFrom (c :: before) r

end Case

/-- The text in small letters. -/
def lower (s : List Char) : List Char := Case.lowerFrom [] s

/-- The text in capitals. -/
def upper (s : List Char) : List Char := s.flatMap Case.upperChar

/-- The text with its first character as at the start of a word and the rest in small letters. -/
def capitalize : List Char → List Char
  | [] => []
  | c :: r => Case.titleChar c ++ Case.lowerFrom [c] r

end Changeover.Text
