import Changeover.Decimal.Read
import Changeover.Decimal.Rounded
import Changeover.Json

/-!
# Reading input

How values are read as truth values, numbers, texts and words of a choice, and what is reported when
they cannot be. Every unreadable value is reported, in the order of the fields; what is wrong with the
whole is reported only when every value is readable.
-/

namespace Changeover.Input

/-- Why a value cannot be read. -/
inductive Fault
  | unknownBool
  | notBool
  | unknownNumber
  | notNumber
  | notText
  | notAmong (words : List String)

/-- The code of a fault. -/
def Fault.code : Fault → String
  | .unknownBool => "bool_parsing"
  | .notBool => "bool_type"
  | .unknownNumber => "float_parsing"
  | .notNumber => "float_type"
  | .notText => "string_type"
  | .notAmong _ => "enum"

/-- Words between quotes, with commas and an `or` before the last one. -/
def listed : List String → String
  | [] => ""
  | [w] => "'" ++ w ++ "'"
  | [v, w] => "'" ++ v ++ "' or '" ++ w ++ "'"
  | w :: r => "'" ++ w ++ "', " ++ listed r

/-- The text of a fault. -/
def Fault.message : Fault → String
  | .unknownBool => "Input should be a valid boolean, unable to interpret input"
  | .notBool => "Input should be a valid boolean"
  | .unknownNumber => "Input should be a valid number, unable to parse string as a number"
  | .notNumber => "Input should be a valid number"
  | .notText => "Input should be a valid string"
  | .notAmong words => "Input should be " ++ listed words

/-- One entry of a report: a value that cannot be read, or what is wrong with the whole. -/
inductive Detail
  | value (field : String) (fault : Fault)
  | whole (message : String)

/-- The code of an entry. -/
def Detail.code : Detail → String
  | .value _ f => f.code
  | .whole _ => "value_error"

/-- The field of an entry, as a path. -/
def Detail.path : Detail → List String
  | .value field _ => [field]
  | .whole _ => []

/-- The text of an entry. -/
def Detail.message : Detail → String
  | .value _ f => f.message
  | .whole message => "Value error, " ++ message

/-- Words for true. -/
def yesWords : List String := ["1", "t", "true", "on", "y", "yes"]

/-- Words for false. -/
def noWords : List String := ["0", "f", "false", "off", "n", "no"]

/-- The number beyond which a whole number no longer fits into a machine word. -/
def wordLimit : Int := 9223372036854775808

/-- Reads a truth value off a whole number, which has to be zero or one. -/
def boolOfInt (n : Int) : Except Fault Bool :=
  if n == 1 then .ok true
  else if n == 0 then .ok false
  else if -wordLimit ≤ n && n < wordLimit then .error .unknownBool
  else .error .notBool

/-- The whole number that a binary number is, if it is one and its size is below the limit. -/
def smallWhole? (x : Float) : Option Int :=
  match Decimal.shape x with
  | (negative, .finite m q) =>
    let n := Decimal.wholePart m q
    let exact := n * Decimal.pow2 (-q).toNat == m * Decimal.pow2 q.toNat
    if exact && n < wordLimit then some (if negative then -n else n) else none
  | _ => none

/-- Reads a truth value: a word in any case, or a number equal to zero or one. -/
def boolOf : Json → Except Fault Bool
  | .bool b => .ok b
  | .text s =>
    let word := String.ofList (s.toList.map Char.toLower)
    if yesWords.contains word then .ok true
    else if noWords.contains word then .ok false
    else .error .unknownBool
  | .int n => boolOfInt n
  | .float x =>
    match smallWhole? x with
    | some n => boolOfInt n
    | none => .error .notBool
  | _ => .error .notBool

/-- Reads a number; truth values count as one and zero, and a whole number has to be within reach. -/
def numberOf : Json → Except Fault Float
  | .bool b => .ok (if b then 1.0 else 0.0)
  | .text s =>
    match Decimal.read? s.toList with
    | some x => .ok x
    | none => .error .unknownNumber
  | .int n =>
    let x := Decimal.ofInt n
    if x.isInf then .error .notNumber else .ok x
  | .float x => .ok x
  | _ => .error .notNumber

/-- Reads a text. -/
def textOf : Json → Except Fault String
  | .text s => .ok s
  | _ => .error .notText

/-- Reads a text that may be missing. -/
def textOrNull : Json → Except Fault (Option String)
  | .null => .ok none
  | v => (textOf v).map some

/-- Reads one of the words of a choice. -/
def choiceOf {α : Type} (words : List String) (ofWord? : String → Option α) : Json → Except Fault α
  | .text s =>
    match ofWord? s with
    | some a => .ok a
    | none => .error (.notAmong words)
  | _ => .error (.notAmong words)

/-- The value of one field and what is wrong with it; a missing value is the default. -/
def read {α : Type} (find : String → Option Json) (as : Json → Except Fault α) (name : String)
    (default : α) : α × List Detail :=
  match (find name).map as with
  | none => (default, [])
  | some (.ok v) => (v, [])
  | some (.error f) => (default, [.value name f])

end Changeover.Input
