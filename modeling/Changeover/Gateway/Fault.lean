import Changeover.Cookie.SetCookie
import Changeover.Duration
import Changeover.Failure
import Changeover.Url.Split

/-!
# Faults

What can end the handling of a request before it is answered.
-/

namespace Changeover.Gateway

/-- Why the handling of a request ends. -/
inductive Fault
  | unreadableUrl (e : Url.SplitError)
  | cookieName (e : SetCookie.Fault)
  | undecodable
  | unencodable
  | invalidTarget
  | disconnected
  | tooLong (e : Duration.TooLong)
  | foreign (f : Failure)

/-- The kind of a fault. -/
def Fault.kind : Fault → String
  | .unreadableUrl _ => "ValueError"
  | .cookieName _ => "CookieError"
  | .undecodable => "UnicodeDecodeError"
  | .unencodable => "UnicodeEncodeError"
  | .invalidTarget => "InvalidURL"
  | .disconnected => "ClientDisconnect"
  | .tooLong _ => "OverflowError"
  | .foreign f => f.name

end Changeover.Gateway
