import Changeover.Failure
import Changeover.Log.Record
import Changeover.Report.Event

/-!
# Delivering an event

An event is written, posted once, and the outcome is logged. Nothing is retried, and what is expected
to go wrong never reaches the visitor.
-/

namespace Changeover.Report

/-- The logger of deliveries. -/
def deliveryLogger : String := "services.collector_service"

/-- A record of a delivery. -/
def deliveryRecord (level : Log.Level) (event : String) (fields : Table Json) : Log.Record :=
  { logger := deliveryLogger, level, event, fields }

/-- What the collector does with a post. -/
inductive Reply
  | status (code : Int)
  | failed (f : Failure)

/-- Whether a status says that the post was refused. -/
def isRefusal (code : Int) : Bool := 400 ≤ code && code ≤ 599

/-- A post to the collector. -/
structure Post where
  target : String
  content : String
  contentType : String := "application/json"

/-- What is left to say about a delivery: its records, and the failure that ends it unexpectedly. -/
structure Outcome where
  records : List Log.Record := []
  raised : Option Failure := none

/-- The outcome of a post. -/
def outcome (target : String) (e : Event) (r : Reply) : Outcome :=
  match r with
  | .failed (.transport name message) =>
    { records := [deliveryRecord .error "tee.failed" [("target", .text target),
        ("event", .text e.wire), ("error", .text message), ("exc_type", .text name)]] }
  | .failed f => { raised := some f }
  | .status code =>
    if isRefusal code then
      { records := [deliveryRecord .warning "tee.rejected" [("target", .text target),
          ("path", .text e.path), ("status_code", .int code)]] }
    else
      { records := [deliveryRecord .info "tee.sent" [("target", .text target),
          ("path", .text e.path), ("status", .int e.status)]] }

/-- Why an event could not be written: its content does not allow it, or something else happened. -/
inductive WriteFault
  | content (message : String)
  | other (f : Failure)

/-- The outcome for an event that could not be written and is shown as `shown`. -/
def unwritten (target shown : String) : WriteFault → Outcome
  | .content message =>
    { records := [deliveryRecord .error "tee.serialize_failed" [("target", .text target),
        ("event", .text shown), ("error", .text message)]] }
  | .other f => { raised := some f }

/-- The post of an event. -/
def post (target : String) (e : Event) : Post := { target, content := e.wire }

/-- Delivers an event that can be written: one post and its outcome. -/
def deliver (s : Settings) (e : Event) (r : Reply) : Post × Outcome :=
  (post s.collectorUrl e, outcome s.collectorUrl e r)

end Changeover.Report
