import Changeover.Decision
import Changeover.Duration
import Changeover.Json

/-!
# Reported events

What the collector is told about a request, and how it is written: one object with fixed names, the
latency in whole nanoseconds.
-/

namespace Changeover.Report

/-- What the collector is told about a request. -/
structure Event where
  host : String
  path : String
  status : Int
  url : String
  headers : Table (List String)
  latency : Duration
  isRobot : Bool
  /-- Whether the visitor prefers the new site. -/
  redirected : Bool

namespace Event

/-- The URL that an event names: the host, the escaped path and, if there is one, the query. -/
def urlOf (a : Snapshot) : String :=
  let url := "https://" ++ a.host ++ String.ofList (Url.escapePath a.path.toList)
  if a.queryString.isEmpty then url else url ++ "?" ++ a.queryString

/-- The event of a request that has been answered with `status`; the host is not repeated among the
headers. -/
def ofSnapshot (s : Settings) (a : Snapshot) (latency : Duration) (isRobot : Bool)
    (status : Int) : Event :=
  { host := a.host
    path := a.path
    status
    url := urlOf a
    headers := a.headers.erase "Host"
    latency
    isRobot
    redirected := Decision.prefersNewSite s a }

/-- The object that stands for an event. -/
def toJson (e : Event) : Json :=
  .object [
    ("Host", .text e.host),
    ("Path", .text e.path),
    ("Status", .int e.status),
    ("URL", .text e.url),
    ("Header", .object (e.headers.map fun h => (h.1, .array (h.2.map .text)))),
    ("Latency", .int e.latency.nanoseconds),
    ("IsRobot", .bool e.isRobot),
    ("UsePkgGoDev", .bool e.redirected)]

/-- The text that is sent to the collector. -/
def wire (e : Event) : String := e.toJson.print

end Event

end Changeover.Report
