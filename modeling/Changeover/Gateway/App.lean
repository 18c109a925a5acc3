import Changeover.Gateway.ReportLayer
import Changeover.Gateway.Route
import Changeover.Report.Pending

/-!
# The gateway

The redirect layer around the report layer around the pages. A fault that gets through all of them is
logged and answered, unless logging it fails too; in either case it goes on to the server.
-/

namespace Changeover.Gateway

/-- What happens around a request. -/
structure Surroundings where
  /-- The body, unless the client has gone. -/
  body : Option Bytes := some []
  legacy : LegacyReply
  /-- The microseconds that the clock counts while the request is handled. -/
  counted : Int := 0

/-- The logger of the gateway itself. -/
def mainLogger : String := "main"

/-- The record of a fault that nothing else has dealt with. -/
def unhandled (path : List Char) (r : Request) (f : Fault) : Log.Record :=
  { logger := mainLogger, level := .error, event := "unhandled.exception"
    fields := [("exc_type", .text f.kind), ("path", .text (String.ofList path)),
      ("method", .text r.method)] }

/-- The answer to a request that ended in a fault. -/
def faultResponse : Response :=
  detailResponse 500 [] "An unexpected error occurred. Please try again."

/-- Deals with the fault of a run: it is logged and, if no response has been started, answered. If it
cannot be logged, the reason for that takes its place. -/
def lastResort (r : Request) (inner : Run) : Run :=
  match inner.raised with
  | none => inner
  | some f =>
    match urlPath r with
    | .error g => { inner with raised := some g }
    | .ok path =>
      let answer := if inner.status?.isNone then faultResponse.messages.map .sent else []
      { entries := inner.entries ++ .logged (unhandled path r f) :: answer, raised := some f }

/-- The run of the layers around the pages. -/
def layered (s : Settings) (r : Request) (x : Surroundings) : Run :=
  let pages := route s.debug r x.body x.legacy
  let reported := if s.teeEnabled then reportLayer (fun _ => false) x.counted (.http r) pages else pages
  redirectLayer s isExempt (fun a => some (Decision.resolve s a)) (.http r) reported

/-- The run of the gateway. -/
def handle (s : Settings) (r : Request) (x : Surroundings) : Run := lastResort r (layered s r x)

/-- Schedules what a run reports, and gives the records of the run with those of the reports. -/
def schedule (s : Settings) : Report.Pending → List Entry → Report.Pending × List Log.Record
  | p, [] => (p, [])
  | p, .reported a latency isRobot status :: rest =>
    let (_, p₁, e) := Report.offer s p a latency isRobot status
    let (p₂, records) := schedule s p₁ rest
    (p₂, e.records ++ records)
  | p, .logged x :: rest =>
    let (p', records) := schedule s p rest
    (p', x :: records)
  | p, _ :: rest => schedule s p rest

/-- Handles a request and lets the sends in flight run: the run, the sends afterwards and what could be
seen of them. -/
def serve (s : Settings) (p : Report.Pending) (plan : Report.Plan) (r : Request) (x : Surroundings) :
    Run × Report.Pending × Report.Effects :=
  let run := handle s r x
  let (p₁, records) := schedule s p run.entries
  let (p₂, e) := p₁.run plan
  (run, p₂, Report.Effects.append { records } e)

/-- The record of a start. -/
def started (s : Settings) : Log.Record :=
  { logger := mainLogger, level := .info, event := "init.complete"
    fields := [("new_site_host", .text s.newSiteHost), ("legacy_origin", .text s.legacyOrigin),
      ("tee_enabled", .bool s.teeEnabled)] }

/-- Stops the gateway: the sends in flight are waited for, for a limited time. -/
def stop (p : Report.Pending) (plan : Report.Plan) : Report.Pending × Report.Effects :=
  p.drain plan true

end Changeover.Gateway
