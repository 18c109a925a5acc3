import Changeover.Text.Quoted

/-!
# Why a message cannot be filled in

Faults of the message itself, of its arguments, and of a value that does not suit its place.
-/

namespace Changeover.Log.Template

/-- Why a message cannot be filled in. -/
inductive Fault
  | tooFew
  | tooMany
  | needsObject
  | keyOfList
  | noKey (key : String)
  | noIndex (index : String)
  | openKey
  | unfinished
  | wideWidth
  | widePrecision
  | countNotWhole
  | countOverflow (kind : String)
  | unknownLetter (letter : Char) (position : Nat)
  | notReal (letter : Char) (type : String)
  | notWhole (letter : Char) (type : String)
  | notFloat (type : String)
  | floatOverflow
  | infinite
  | notANumber
  | longPrecision
  | notCharacter
  | characterRange
  | tooLong
  | notATemplate (template arguments : String)
  | noLength (type : String)

/-- The kind of a fault. -/
def Fault.kind : Fault → String
  | .noKey _ | .noIndex _ => "KeyError"
  | .openKey | .unfinished | .wideWidth | .widePrecision | .unknownLetter _ _ | .notANumber =>
    "ValueError"
  | .countOverflow _ | .floatOverflow | .infinite | .longPrecision | .characterRange => "OverflowError"
  | .tooLong => "MemoryError"
  | _ => "TypeError"

/-- A letter as a fault names it: by itself if it is ASCII and no control, by its number in any case. -/
def letterText (letter : Char) : String :=
  let shown := if 31 ≤ letter.toNat && letter.toNat ≤ 126 then letter else '?'
  "'" ++ shown.toString ++ "' (0x" ++ String.ofList (Nat.toDigits 16 letter.toNat) ++ ")"

/-- The text of a fault. -/
def Fault.message : Fault → String
  | .tooFew => "not enough arguments for format string"
  | .tooMany => "not all arguments converted during string formatting"
  | .needsObject => "format requires a mapping"
  | .keyOfList => "list indices must be integers or slices, not str"
  | .noKey key => Text.Quoted.text key
  | .noIndex index => index
  | .openKey => "incomplete format key"
  | .unfinished => "incomplete format"
  | .wideWidth => "width too big"
  | .widePrecision => "precision too big"
  | .countNotWhole => "* wants int"
  | .countOverflow kind => "Python int too large to convert to C " ++ kind
  | .unknownLetter letter position =>
    "unsupported format character " ++ letterText letter ++ " at index " ++ toString position
  | .notReal letter type =>
    "%" ++ letter.toString ++ " format: a real number is required, not " ++ type
  | .notWhole letter type =>
    "%" ++ letter.toString ++ " format: an integer is required, not " ++ type
  | .notFloat type => "must be real number, not " ++ type
  | .floatOverflow => "int too large to convert to float"
  | .infinite => "cannot convert float infinity to integer"
  | .notANumber => "cannot convert float NaN to integer"
  | .longPrecision => "precision too large"
  | .notCharacter => "%c requires int or char"
  | .characterRange => "%c arg not in range(0x110000)"
  | .tooLong => ""
  | .notATemplate template arguments =>
    "unsupported operand type(s) for %: '" ++ template ++ "' and '" ++ arguments ++ "'"
  | .noLength type => "object of type '" ++ type ++ "' has no len()"

end Changeover.Log.Template
