import Changeover.Text.Cut
import Changeover.Text.Quoted

/-!
# Settings

What an operator can choose, with its defaults, and the conditions that make a choice acceptable: the
two hosts are bare names and the legacy origin is a web origin.
-/

namespace Changeover

/-- The settings of a gateway. -/
structure Settings where
  /-- The site that opted-in visitors are sent to. -/
  newSiteHost : String := "pkg.go.dev"
  /-- The collector that receives reported events. -/
  collectorHost : String := "teeproxy-dot-go-discovery.appspot.com"
  /-- The site that answers everyone else. -/
  legacyOrigin : String := "http://localhost:8080"
  /-- The cookie that holds a visitor's consent. -/
  redirectCookie : String := "pkggodev-redirect"
  /-- The query parameter that changes it. -/
  redirectParam : String := "redirect"
  /-- The tag put on every redirect. -/
  attributionSource : String := "godoc"
  /-- The tag of a visitor who comes back. -/
  returnMarker : String := "backtogodoc"
  /-- How the host names begin that are never redirected. -/
  apiHostPrefix : String := "api"
  /-- Whether requests are reported. -/
  teeEnabled : Bool := true
  /-- How many seconds a request to another host may take. -/
  httpTimeout : Float := 10.0
  /-- Whether the pages that document the gateway are served. -/
  debug : Bool := false

namespace Settings

open Text

/-- Why settings are refused. -/
inductive Fault
  | notBareHost (field value : String)
  | notWebOrigin (value : String)

/-- The text of a refusal. -/
def Fault.message : Fault → String
  | .notBareHost field value => field ++ " must be a bare host name, got " ++ Quoted.text value
  | .notWebOrigin value =>
    "LEGACY_ORIGIN must be an http:// or https:// URL, got " ++ Quoted.text value

/-- Whether the text can be a host name: it is not empty and holds no slash. -/
def isBareHost (host : String) : Bool := !host.isEmpty && !host.toList.contains '/'

/-- Whether the text begins like the URL of a web site. -/
def isWebOrigin (origin : String) : Bool :=
  "http://".toList.isPrefixOf origin.toList || "https://".toList.isPrefixOf origin.toList

/-- The first fault of the settings. -/
def fault? (s : Settings) : Option Fault :=
  if !isBareHost s.newSiteHost then some (.notBareHost "NEW_SITE_HOST" s.newSiteHost)
  else if !isBareHost s.collectorHost then some (.notBareHost "COLLECTOR_HOST" s.collectorHost)
  else if !isWebOrigin s.legacyOrigin then some (.notWebOrigin s.legacyOrigin)
  else none

/-- Settings that a gateway starts with. -/
def Accepted (s : Settings) : Prop := s.fault? = none

/-- Where events are sent. -/
def collectorUrl (s : Settings) : String := "https://" ++ s.collectorHost ++ "/"

end Settings

end Changeover
