import Changeover.Json
import Changeover.Log.Level

/-!
# Log records

A record has a name and fields beside it. The fields of a plain record may replace its name, its level
and its logger in the line that is written; a bound record keeps its own level and logger.

Two members of a written line are left out: `timestamp`, which every line has, and `exception`, the
traceback of a record that is made while an exception is handled (`redirect.resolve_error`,
`tee.dispatch_error`, `unhandled.exception`).
-/

namespace Changeover.Log

/-- How the fields of a record stand to its own. -/
inductive Style
  | plain
  | bound
  deriving DecidableEq, Repr

/-- A record. -/
structure Record where
  logger : String
  level : Level
  event : String
  fields : Table Json := []
  style : Style := .plain

/-- How records are written. -/
structure Config where
  threshold : Nat := 20
  /-- Whether lines are objects rather than coloured text. -/
  structured : Bool := true

/-- The configuration that the environment chooses. -/
def Config.ofEnvironment (env : Table String) : Except NotALevel Config := do
  let threshold ← thresholdNamed ((env.get? "LOG_LEVEL").getD "INFO")
  let format := Text.lower ((env.get? "LOG_FORMAT").getD "").toList
  return { threshold, structured := format == "json".toList }

/-- The loggers of other components, which write nothing below a warning. -/
def quietLoggers : List String := ["httpx", "httpcore", "uvicorn.access"]

/-- Whether `logger` is `parent` or belongs to it. -/
def belongsTo (parent logger : String) : Bool :=
  logger == parent || (parent.toList ++ ['.']).isPrefixOf logger.toList

/-- The least level that a logger writes. -/
def Config.thresholdOf (c : Config) (logger : String) : Nat :=
  if quietLoggers.any (belongsTo · logger) then Level.warning.number else c.threshold

/-- Whether a record is written. -/
def Config.writes (c : Config) (r : Record) : Bool :=
  c.thresholdOf r.logger ≤ r.level.number

/-- The members of a record's line. -/
def Record.members (r : Record) : Table Json :=
  let own : Table Json := [("level", .text r.level.word), ("logger", .text r.logger)]
  let entries := match r.style with
    | .plain => ("event", .text r.event) :: own ++ r.fields
    | .bound => ("event", .text r.event) :: r.fields ++ own
  Table.ofEntries entries

/-- The line of a record. -/
def Record.line (r : Record) : Json := .object r.members

/-- The lines of the records that are written. -/
def Config.lines (c : Config) (rs : List Record) : List Json := (rs.filter c.writes).map Record.line

end Changeover.Log
