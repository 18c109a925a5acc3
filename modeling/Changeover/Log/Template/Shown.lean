import Changeover.Json
import Changeover.Text.Quoted

/-!
# Values in messages

How a value is written in the text of a message: a text stands by itself, and inside another value it
stands between quotes.
-/

namespace Changeover.Log.Template

open Text

mutual

/-- A value as it is shown inside another one. -/
def shown : Json → List Char
  | .null => "None".toList
  | .bool true => "True".toList
  | .bool false => "False".toList
  | .int n => (toString n).toList
  | .float x => (Decimal.text x).toList
  | .text s => Quoted.quote s.toList
  | .array items => '[' :: (shownItems items ++ [']'])
  | .object members => '\x7b' :: (shownMembers members ++ ['\x7d'])

/-- The items of an array. -/
def shownItems : List Json → List Char
  | [] => []
  | [v] => shown v
  | v :: r => shown v ++ ',' :: ' ' :: shownItems r

/-- The members of an object. -/
def shownMembers : List (String × Json) → List Char
  | [] => []
  | [(k, v)] => Quoted.quote k.toList ++ ':' :: ' ' :: shown v
  | (k, v) :: r => Quoted.quote k.toList ++ ':' :: ' ' :: (shown v ++ ',' :: ' ' :: shownMembers r)

end

/-- A value by itself. -/
def plain : Json → List Char
  | .text s => s.toList
  | v => shown v

/-- A value as it is shown, in ASCII alone. -/
def shownAscii (v : Json) : List Char :=
  (shown v).flatMap fun c => if c.toNat < 128 then [c] else Quoted.byNumber c

/-- What a value is called in a fault. -/
def typeName : Json → String
  | .null => "NoneType"
  | .bool _ => "bool"
  | .int _ => "int"
  | .float _ => "float"
  | .text _ => "str"
  | .array _ => "list"
  | .object _ => "dict"

end Changeover.Log.Template
