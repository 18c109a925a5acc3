import Changeover.Log.Template.Figure

/-!
# Filling in messages

A message may name places by `%` and a conversion, which take the arguments in turn, or by `%`, a key in
parentheses and a conversion, which take the members of an object. Two `%` stand for one.
-/

namespace Changeover.Log.Template

/-- Fills in the rest of a message, looking at no more than `fuel` characters and places; `total` is the
length of the whole message. -/
def fillFrom (total : Nat) : Nat → Arguments → List Char → Except Fault (List Char)
  | 0, a, _ | _ + 1, a, [] => do
    a.finish
    return []
  | fuel + 1, a, '%' :: r =>
    match r with
    | '%' :: r' => do return '%' :: (← fillFrom total fuel a r')
    | _ => do
      let (p, a₁, rest) ← place a r
      let (v, a₂) ← a₁.next
      let text ← convert p (total - rest.length - 1) v
      return text ++ (← fillFrom total fuel a₂ rest)
  | fuel + 1, a, c :: r => do return c :: (← fillFrom total fuel a r)

/-- The message with its places filled in. -/
def fill (message : String) (a : Arguments) : Except Fault String :=
  let s := message.toList
  (fillFrom s.length (s.length + 1) a s).map String.ofList

end Changeover.Log.Template
