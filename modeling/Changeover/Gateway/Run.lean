import Changeover.Duration
import Changeover.Gateway.Fault
import Changeover.Log.Record
import Changeover.Snapshot

/-!
# Runs

What happens while a request is handled, in order, and the fault that ends it, if one does. A layer is
a function from the run of what it surrounds to its own run. Other questions are views of a run: the
messages sent, the records logged, the requests forwarded, the snapshots reported.
-/

namespace Changeover.Gateway

/-- A message to the client. -/
inductive Message
  | start (status : Int) (headers : List RawHeader)
  | body (content : Bytes) (more : Bool)
  | other (kind : String)

/-- A request to the legacy site. -/
structure Forwarded where
  method : String
  target : String
  headers : List RawHeader
  body : Bytes

/-- One thing that happens while a request is handled. -/
inductive Entry
  | entered
  | resolved (path : String)
  | sent (m : Message)
  | forwarded (r : Forwarded)
  | reported (a : Snapshot) (latency : Duration) (isRobot : Bool) (status : Int)
  | logged (r : Log.Record)

/-- What happens while a request is handled. -/
structure Run where
  entries : List Entry := []
  raised : Option Fault := none

namespace Run

/-- The messages sent. -/
def messages (r : Run) : List Message :=
  r.entries.filterMap fun
    | .sent m => some m
    | _ => none

/-- The requests forwarded. -/
def forwarded (r : Run) : List Forwarded :=
  r.entries.filterMap fun
    | .forwarded f => some f
    | _ => none

/-- The records logged. -/
def records (r : Run) : List Log.Record :=
  r.entries.filterMap fun
    | .logged x => some x
    | _ => none

/-- The status of the last response that was started. -/
def status? (r : Run) : Option Int :=
  (r.messages.filterMap fun
    | .start s _ => some s
    | _ => none).getLast?

/-- The headers of the last response that was started. -/
def headers (r : Run) : List RawHeader :=
  ((r.messages.filterMap fun
    | .start _ hs => some hs
    | _ => none).getLast?).getD []

/-- The content sent. -/
def content (r : Run) : Bytes :=
  r.messages.flatMap fun
    | .body c _ => c
    | _ => []

/-- The run with entries before it. -/
def after (before : List Entry) (r : Run) : Run := { r with entries := before ++ r.entries }

/-- The run that ends at once. -/
def fault (f : Fault) : Run := { raised := some f }

end Run

/-- A whole answer. -/
structure Response where
  status : Int
  headers : List RawHeader
  body : Bytes := []

/-- The messages of an answer. -/
def Response.messages (r : Response) : List Message := [.start r.status r.headers, .body r.body false]

/-- The run that sends an answer. -/
def Response.run (r : Response) : Run := { entries := r.messages.map .sent }

end Changeover.Gateway
