/-!
# Failures of other parties

A request to another host can fail in transport, which the gateway expects, or in some other way,
which it does not.
-/

namespace Changeover

/-- A failed request to another host. -/
inductive Failure
  | transport (name message : String)
  | foreign (name message : String)

/-- What the failure calls itself. -/
def Failure.name : Failure → String
  | .transport name _ => name
  | .foreign name _ => name

/-- What the failure says. -/
def Failure.message : Failure → String
  | .transport _ message => message
  | .foreign _ message => message

end Changeover
