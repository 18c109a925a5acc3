import Changeover.Decimal.Shortest
import Changeover.Text.Hex

/-!
# JSON values

Values as they are exchanged. A number is whole or binary, and the two stay apart; an object keeps its
members in order. The printer puts no blanks, writes a binary number as the shortest decimal that reads
back, and escapes quotes, backslashes and controls only.
-/

namespace Changeover

/-- A JSON value. -/
inductive Json
  | null
  | bool (b : Bool)
  | int (n : Int)
  | float (x : Float)
  | text (s : String)
  | array (items : List Json)
  | object (members : List (String × Json))
  deriving Inhabited

namespace Json

/-- One character of a text. -/
def escape (c : Char) : List Char :=
  if c == '"' then ['\\', '"']
  else if c == '\\' then ['\\', '\\']
  else if c.toNat == 8 then ['\\', 'b']
  else if c.toNat == 12 then ['\\', 'f']
  else if c == '\n' then ['\\', 'n']
  else if c == '\r' then ['\\', 'r']
  else if c == '\t' then ['\\', 't']
  else if c.toNat < 0x20 then '\\' :: 'u' :: Text.Hex.fixed 4 c.toNat
  else [c]

/-- A text between quotes. -/
def quote (s : String) : List Char := '"' :: (s.toList.flatMap escape ++ ['"'])

/-- A binary number; what is no number or not finite has a word. -/
def floatText (x : Float) : String :=
  match Decimal.shape x with
  | (_, .nan) => "NaN"
  | (negative, .infinite) => if negative then "-Infinity" else "Infinity"
  | _ => Decimal.text x

mutual

/-- Writes a value. -/
def render : Json → List Char
  | .null => "null".toList
  | .bool true => "true".toList
  | .bool false => "false".toList
  | .int n => (toString n).toList
  | .float x => (floatText x).toList
  | .text s => quote s
  | .array items => '[' :: (renderItems items ++ [']'])
  | .object members => '{' :: (renderMembers members ++ ['}'])

/-- Writes the items of an array. -/
def renderItems : List Json → List Char
  | [] => []
  | [v] => render v
  | v :: r => render v ++ ',' :: renderItems r

/-- Writes the members of an object. -/
def renderMembers : List (String × Json) → List Char
  | [] => []
  | [(k, v)] => quote k ++ ':' :: render v
  | (k, v) :: r => quote k ++ ':' :: (render v ++ ',' :: renderMembers r)

end

/-- The text of a value. -/
def print (v : Json) : String := String.ofList v.render

/-- The members of an object; any other value has none. -/
def members : Json → List (String × Json)
  | .object m => m
  | _ => []

/-- The items of an array; any other value has none. -/
def items : Json → List Json
  | .array l => l
  | _ => []

end Json

end Changeover
