import Changeover.Input
import Changeover.Settings.Basic
import Changeover.Table
import Changeover.Text.Case

/-!
# Reading settings

A value is looked up among the arguments, then in the environment, then in the environment file; the
names are compared without regard to case.
-/

namespace Changeover.Settings

open Input (Detail)

/-- Settings from the values of their fields, or the report on them. -/
def ofFields (find : String → Option Json) : Except (List Detail) Settings :=
  let base : Settings := {}
  let (newSiteHost, e₁) := Input.read find Input.textOf "new_site_host" base.newSiteHost
  let (collectorHost, e₂) := Input.read find Input.textOf "collector_host" base.collectorHost
  let (legacyOrigin, e₃) := Input.read find Input.textOf "legacy_origin" base.legacyOrigin
  let (redirectCookie, e₄) := Input.read find Input.textOf "redirect_cookie" base.redirectCookie
  let (redirectParam, e₅) := Input.read find Input.textOf "redirect_param" base.redirectParam
  let (attributionSource, e₆) := Input.read find Input.textOf "attribution_source" base.attributionSource
  let (returnMarker, e₇) := Input.read find Input.textOf "return_marker" base.returnMarker
  let (apiHostPrefix, e₈) := Input.read find Input.textOf "api_host_prefix" base.apiHostPrefix
  let (teeEnabled, e₉) := Input.read find Input.boolOf "tee_enabled" base.teeEnabled
  let (httpTimeout, e₁₀) := Input.read find Input.numberOf "http_timeout" base.httpTimeout
  let (debug, e₁₁) := Input.read find Input.boolOf "debug" base.debug
  match e₁ ++ e₂ ++ e₃ ++ e₄ ++ e₅ ++ e₆ ++ e₇ ++ e₈ ++ e₉ ++ e₁₀ ++ e₁₁ with
  | [] =>
    let s : Settings :=
      { newSiteHost, collectorHost, legacyOrigin, redirectCookie, redirectParam,
        attributionSource, returnMarker, apiHostPrefix, teeEnabled, httpTimeout, debug }
    match s.fault? with
    | none => .ok s
    | some f => .error [.whole f.message]
  | details => .error details

/-- Where settings come from. -/
structure Source where
  /-- Arguments, by the name of the field in any letter case. -/
  arguments : Table Json := []
  /-- Environment variables. -/
  environment : Table String := []
  /-- The entries of the environment file; an entry without a value counts as missing. -/
  file : Table (Option String) := []

/-- Compares variable names without regard to case. -/
def sameVariable (a b : String) : Bool := Text.lower a.toList == Text.lower b.toList

/-- The value of a variable; of several spellings the last one counts. -/
def spelled? {α : Type} (env : Table α) (name : String) : Option α :=
  (env.filter (sameVariable ·.1 name)).getLast?.map (·.2)

/-- The value of an argument; its exact name comes before the first of other spellings. -/
def argument? (arguments : Table Json) (name : String) : Option Json :=
  arguments.get? name <|> (arguments.find? (sameVariable ·.1 name)).map (·.2)

/-- The value that a source has for a field. -/
def Source.find (src : Source) (name : String) : Option Json :=
  argument? src.arguments name <|>
    (spelled? src.environment name).map .text <|> (spelled? src.file name).join.map .text

/-- The settings of a source, or the report on them. -/
def Source.load (src : Source) : Except (List Detail) Settings := ofFields src.find

end Changeover.Settings
