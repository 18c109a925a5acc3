import Changeover.Text.Canonical
import Changeover.Text.Punycode
import Changeover.Url.Idna.Direction
import Changeover.Url.Idna.Letters
import Changeover.Url.Idna.Neighbours

/-!
# Host names beyond ASCII

A host name is a row of labels between dots. A label beyond ASCII is written in ASCII behind `xn--`. It
must be in its composed form, hold only the characters of names, each next to what it may stand next to,
not begin with a mark nor begin or end with a hyphen, and be written in one direction.
-/

namespace Changeover.Url.Idna

open Text

/-- Whether the hyphens of a label are where they may be. -/
def hyphensFit (label : List Char) : Bool :=
  (label.drop 2).take 2 != ['-', '-'] && label.head? != some '-' && label.getLast? != some '-'

/-- Whether a label begins with a mark. -/
def beginsWithMark (label : List Char) : Bool :=
  match label with
  | c :: _ => inRanges markRanges c.toNat
  | [] => false

/-- Whether the nearest character through which letters do not join is one of those. -/
def meets (ranges : List (Nat × Nat)) (s : List Char) : Bool :=
  match s.dropWhile fun c => inRanges transparentRanges c.toNat with
  | c :: _ => inRanges ranges c.toNat
  | [] => false

/-- Whether a label that is given backwards ends in a mark that takes away the vowel. -/
def afterVirama (passed : List Char) : Bool :=
  match passed with
  | c :: _ => inRanges viramaRanges c.toNat
  | [] => false

/-- Whether a character is allowed between others, of which those before it are given backwards. -/
def fits (label passed : List Char) (c : Char) (rest : List Char) : Bool :=
  let n := c.toNat
  if n == 0x200C then afterVirama passed || (meets joinsLeftRanges passed && meets joinsRightRanges rest)
  else if n == 0x200D then afterVirama passed
  else if n == 0xB7 then passed.head? == some 'l' && rest.head? == some 'l'
  else if n == 0x375 then rest.head?.any fun d => inRanges greekRanges d.toNat
  else if n == 0x5F3 || n == 0x5F4 then passed.head?.any fun d => inRanges hebrewRanges d.toNat
  else if n == 0x30FB then label.any fun d => d != c && inRanges japaneseRanges d.toNat
  else if 0x660 ≤ n && n ≤ 0x669 then !label.any fun d => 0x6F0 ≤ d.toNat && d.toNat ≤ 0x6F9
  else if 0x6F0 ≤ n && n ≤ 0x6F9 then !label.any fun d => 0x660 ≤ d.toNat && d.toNat ≤ 0x669
  else inRanges letterRanges n

/-- Whether all characters from a place on are allowed. -/
def allFitFrom (label passed : List Char) : List Char → Bool
  | [] => true
  | c :: r => fits label passed c r && allFitFrom label (c :: passed) r

/-- Whether a direction goes from right to left. -/
def Direction.isRight (d : Direction) : Bool := d == .right || d == .rightArabic

/-- Whether a label that is written from right to left may end so. -/
def endsRight (ds : List Direction) : Bool :=
  match ds.reverse.dropWhile (· == .mark) with
  | d :: _ => d.isRight || d == .number || d == .arabicNumber
  | [] => false

/-- Whether a label is written in one direction. -/
def hasOneDirection (label : List Char) : Bool :=
  let ds := label.map direction
  if ds.any fun d => d.isRight || d == .arabicNumber then
    (ds.head?.any Direction.isRight) && !ds.contains .left && endsRight ds &&
      !(ds.contains .number && ds.contains .arabicNumber)
  else true

/-- The longest name, which a dot may follow. -/
def maxName : Nat := 253

/-- The longest label. -/
def maxLabel : Nat := 63

/-- Whether a label is acceptable in its full form. -/
def isLabel (label : List Char) : Bool :=
  !label.isEmpty && label.length ≤ maxName + 1 && hyphensFit label && !beginsWithMark label &&
    allFitFrom label [] label && hasOneDirection label && Canonical.isComposed label

/-- What stands before a label that is written in ASCII. -/
def mark : List Char := "xn--".toList

/-- Whether a label in ASCII is acceptable: behind the mark its full form has to be. -/
def isAsciiLabel (label : List Char) : Bool :=
  if mark.isPrefixOf label then
    let s := label.drop mark.length
    !s.isEmpty && s.getLast? != some '-' && (Punycode.decode? s).any isLabel
  else isLabel label

/-- A label in ASCII. -/
def asciiLabel? (label : List Char) : Option (List Char) :=
  let (written, acceptable) :=
    if label.all (·.toNat < 128) then (label, isAsciiLabel label)
    else (mark ++ Punycode.encode label, isLabel label)
  if acceptable && written.length ≤ maxLabel then some written else none

/-- Whether a character stands between labels. -/
def isDot (c : Char) : Bool :=
  c == '.' || c.toNat == 0x3002 || c.toNat == 0xFF0E || c.toNat == 0xFF61

/-- The labels of a name, and whether a dot follows the last one. -/
def labels (name : List Char) : List (List Char) × Bool :=
  let parts := (name.map fun c => if isDot c then '.' else c).splitOn '.'
  if parts.getLast? == some [] then (parts.dropLast, true) else (parts, false)

/-- A name in ASCII. -/
def encode? (name : List Char) : Option (List Char) := do
  let (parts, dotted) := labels name
  if maxName + 1 < name.length || parts.isEmpty then none
  else
    let written ← parts.mapM asciiLabel?
    let whole := ['.'].intercalate written ++ if dotted then ['.'] else []
    if whole.length ≤ maxName + (if dotted then 1 else 0) then some whole else none

end Changeover.Url.Idna
