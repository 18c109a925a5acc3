import Changeover.Decision
import Changeover.Gateway.Run

/-!
# The redirect layer

The outermost layer sends opted-in visitors to the new site and adds the consent update to whichever
answer goes out. Operational pages and connections that are not requests pass unchanged, and a decision
that cannot be made counts as none.
-/

namespace Changeover.Gateway

open Text

/-- The logger of the layers. -/
def layerLogger : String := "core.middleware"

/-- Whether a path is an operational one: the platform's own, or one of two pages, which a line feed
may follow. -/
def isExempt (path : List Char) : Bool :=
  "/_ah/".toList.isPrefixOf path ||
    ["/-/bot", "/-/refresh", "/-/bot\n", "/-/refresh\n"].any fun p => p.toList == path

/-- Adds fields at the end of the headers of a start message. -/
def addHeaders (extra : List RawHeader) : Entry → Entry
  | .sent (.start status headers) => .sent (.start status (headers ++ extra))
  | e => e

/-- The run with fields added to every start message. -/
def Run.withHeaders (extra : List RawHeader) (r : Run) : Run :=
  { r with entries := r.entries.map (addHeaders extra) }

/-- The record of a decision that could not be made. -/
def resolveError (path : String) : Log.Record :=
  { logger := layerLogger, level := .error, event := "redirect.resolve_error"
    fields := [("path", .text path)] }

/-- The record of a redirect. -/
def redirectIssued (path destination : String) (cookie : CookieUpdate) : Log.Record :=
  { logger := layerLogger, level := .info, event := "redirect.issued"
    fields := [("from_path", .text path), ("to_url", .text destination),
      ("cookie", .text cookie.word), ("status_code", .int 302)] }

/-- An empty answer that leads to a URL. -/
def redirection (status : Int) (url : List Char) (extra : List RawHeader) : Response :=
  { status
    headers := Header.raw "content-length" "0" ::
      Header.raw "location" (String.ofList (Url.escapeLocation url)) :: extra }

/-- What is decided about requests: `none` when no decision can be made. -/
abbrev Resolver := Snapshot → Option Decision

/-- Carries out a decision on a request. -/
def carryOut (s : Settings) (r : Request) (d : Decision) (inner : Run) : Run :=
  match SetCookie.ofUpdate s d.cookie with
  | .error e => Run.fault (.cookieName e)
  | .ok cookies =>
    match d.destination with
    | some url =>
      (redirection 302 url.toList cookies).run.after [.logged (redirectIssued r.path url d.cookie)]
    | none => inner.withHeaders cookies

/-- The run of the layer around the run of what it surrounds. -/
def redirectLayer (s : Settings) (exempt : List Char → Bool) (resolve : Resolver)
    (c : Connection) (inner : Run) : Run :=
  match c with
  | .other => inner
  | .http r =>
    if exempt r.path.toList then inner
    else
      match Snapshot.ofRequest r with
      | .error e => Run.fault (.unreadableUrl e)
      | .ok a =>
        match resolve a with
        | some d => (carryOut s r d inner).after [.resolved a.path]
        | none => inner.after [.resolved a.path, .logged (resolveError r.path)]

end Changeover.Gateway
