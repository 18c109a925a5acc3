import Changeover.Json
import Changeover.Log.Template.Fault
import Changeover.Table

/-!
# Arguments of a message

What the places of a message take. A list of arguments is taken in turn and to its end; one value by
itself is taken once. Places may name members only when there is an object to name them in, and then
nothing need be taken.
-/

namespace Changeover.Log.Template

/-- What places without a key take. -/
inductive Supply
  | listed (values : List Json)
  | single (value : Json) (taken : Bool)

/-- The arguments of a message. -/
structure Arguments where
  /-- The value whose members places may name. -/
  named : Option Json := none
  supply : Supply

namespace Arguments

/-- A value by itself; objects and arrays count as having members. -/
def ofValue (v : Json) : Arguments :=
  let named := match v with
    | .object _ | .array _ => some v
    | _ => none
  { named, supply := .single v false }

/-- The arguments that a list stands for: a single object that is not empty stands by itself. -/
def ofList : List Json → Arguments
  | [.object (m :: r)] => ofValue (.object (m :: r))
  | values => { supply := .listed values }

/-- The value of the next place without a key, and the arguments left. -/
def next (a : Arguments) : Except Fault (Json × Arguments) :=
  match a.supply with
  | .listed [] | .single _ true => .error .tooFew
  | .listed (v :: r) => .ok (v, { a with supply := .listed r })
  | .single v false => .ok (v, { a with supply := .single v true })

/-- The arguments after a place has named a member, which is then the next value and the only one. -/
def select (key : String) (a : Arguments) : Except Fault Arguments :=
  match a.named with
  | none => .error .needsObject
  | some (.object members) =>
    match Table.get? members key with
    | some v => .ok { a with supply := .single v false }
    | none => .error (.noKey key)
  | some _ => .error .keyOfList

/-- Whether values are left that should have been taken. -/
def finish (a : Arguments) : Except Fault Unit :=
  match a.named, a.supply with
  | none, .listed (_ :: _) | none, .single _ false => .error .tooMany
  | _, _ => .ok ()

end Arguments

end Changeover.Log.Template
