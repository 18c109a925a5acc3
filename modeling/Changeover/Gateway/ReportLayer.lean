import Changeover.Gateway.RedirectLayer
import Changeover.Robot

/-!
# The report layer

The layer passes every message on as it is. After the last part of a body it hands the request over to
be reported, with the status of the latest response that was started. What goes wrong there is logged.
-/

namespace Changeover.Gateway

/-- The record of a request that could not be reported. -/
def dispatchError (path : String) : Log.Record :=
  { logger := layerLogger, level := .error, event := "tee.dispatch_error"
    fields := [("path", .text path)] }

/-- Hands a request over to be reported; `fails` says whether that goes wrong. A request that cannot
be taken apart is not handed over. -/
def dispatch (fails : Bool) (r : Request) (latency : Duration) (status : Int) : List Entry :=
  match Snapshot.ofRequest r with
  | .error _ => [.logged (dispatchError r.path)]
  | .ok a =>
    .reported a latency (Robot.sent a) status ::
      if fails then [.logged (dispatchError r.path)] else []

/-- The run of the layer around the rest of an inner run. The layer remembers the status of the latest
start and how often it has looked at the clock; `fails` and `clock` tell by that number what goes wrong
in handing the request over and what the clock has counted. When the time cannot be told, the run ends
where it is looked at. -/
def reportFrom (fails : Nat → Bool) (clock : Nat → Int) (r : Request) (raised : Option Fault) :
    Option Int → Nat → List Entry → Run
  | _, _, [] => { raised }
  | status, n, e :: rest =>
    match e, status with
    | .sent (.start s _), _ => (reportFrom fails clock r raised (some s) n rest).after [e]
    | .sent (.body _ false), some s =>
      match Duration.ofClock (clock n) with
      | .ok latency =>
        (reportFrom fails clock r raised status (n + 1) rest).after (e :: dispatch (fails n) r latency s)
      | .error t => { entries := [e], raised := some (.tooLong t) }
    | _, _ => (reportFrom fails clock r raised status n rest).after [e]

/-- The run of the layer around the run of what it surrounds; `clock n` is what the clock has counted
when it is looked at after `n` earlier times. -/
def timedReportLayer (fails : Nat → Bool) (clock : Nat → Int) (c : Connection) (inner : Run) : Run :=
  match c with
  | .other => inner
  | .http r => reportFrom fails clock r inner.raised none 0 inner.entries

/-- The run of the layer when the clock has counted the same whenever it is looked at. -/
def reportLayer (fails : Nat → Bool) (counted : Int) (c : Connection) (inner : Run) : Run :=
  timedReportLayer fails (fun _ => counted) c inner

end Changeover.Gateway
