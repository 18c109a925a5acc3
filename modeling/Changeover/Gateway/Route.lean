import Changeover.Gateway.Proxy
import Changeover.Gateway.RedirectLayer
import Changeover.Json

/-!
# Routes

The pages that the gateway serves itself come before the one that passes everything on. A path has to
be a page's path, which a line feed may follow; the last page takes every path that begins with a slash
and holds no line feed but at its end. The first page that takes path and method answers; otherwise the
first that takes the path refuses the method; otherwise the path may be meant with or without a slash at
its end; otherwise nothing is found.
-/

namespace Changeover.Gateway

/-- A page. -/
inductive Route
  | health
  | bot
  | legacy
  | description
  | manual
  | manualReturn
  deriving DecidableEq, Repr

namespace Route

/-- The pages of a gateway, in the order in which they are tried. -/
def table (debug : Bool) : List Route :=
  (if debug then [.description, .manual, .manualReturn] else []) ++ [.health, .bot, .legacy]

/-- The path of a page with one path. -/
def path? : Route → Option String
  | .health => some "/_ah/health"
  | .bot => some "/-/bot"
  | .legacy => none
  | .description => some "/openapi.json"
  | .manual => some "/docs"
  | .manualReturn => some "/docs/oauth2-redirect"

/-- The methods of a page, in alphabetical order. -/
def methods : Route → List String
  | .health | .bot => ["GET"]
  | .legacy => ["GET", "HEAD", "POST"]
  | .description | .manual | .manualReturn => ["GET", "HEAD"]

/-- The text without one line feed at its end. -/
def dropLineFeed (s : List Char) : List Char := if s.getLast? == some '\n' then s.dropLast else s

/-- Whether a page takes a path. -/
def takesPath (r : Route) (path : List Char) : Bool :=
  match r.path? with
  | some p => p.toList == path || p.toList ++ ['\n'] == path
  | none =>
    match path with
    | '/' :: rest => !(dropLineFeed rest).contains '\n'
    | _ => false

/-- Whether a page takes a path and a method. -/
def takes (r : Route) (path : List Char) (method : String) : Bool :=
  r.takesPath path && r.methods.contains method

end Route

/-- What a request meets. -/
inductive Match
  | page (r : Route)
  | wrongMethod (r : Route)
  | slash (path : List Char)
  | nothing

/-- The path with a slash added at its end, or without those it ends in. -/
def otherSlash (path : List Char) : List Char :=
  if path.getLast? == some '/' then (path.reverse.dropWhile (· == '/')).reverse else path ++ ['/']

/-- What a request for a path meets. -/
def Match.find (debug : Bool) (path : List Char) (method : String) : Match :=
  let routes := Route.table debug
  match routes.find? (·.takes path method) with
  | some r => .page r
  | none =>
    match routes.find? (·.takesPath path) with
    | some r => .wrongMethod r
    | none =>
      if path != ['/'] && routes.any (·.takesPath (otherSlash path)) then .slash (otherSlash path)
      else .nothing

/-- An answer that is an object. -/
def jsonResponse (status : Int) (headers : List RawHeader) (content : Json) : Response :=
  let body := Text.Utf8.encode content.render
  { status
    headers := headers ++ [lengthField body, Header.raw "content-type" "application/json"]
    body }

/-- The answer of the pages that show the gateway to be alive. -/
def healthResponse : Response :=
  jsonResponse 200 [] (.object [("status", .text "healthy"), ("service", .text "gddo-shim")])

/-- An answer that says what is wrong. -/
def detailResponse (status : Int) (headers : List RawHeader) (detail : String) : Response :=
  jsonResponse status headers (.object [("detail", .text detail)])

/-- An answer that describes the gateway, whose content is left open. -/
def descriptionResponse (contentType : String) : Response :=
  { status := 200, headers := [Header.raw "content-type" contentType] }

/-- The run of the page. -/
def Route.run (route : Route) (r : Request) (body : Option Bytes) (u : LegacyReply) : Run :=
  match route with
  | .health | .bot => healthResponse.run
  | .legacy => forward r body u
  | .description => (descriptionResponse "application/json").run
  | .manual | .manualReturn => (descriptionResponse "text/html; charset=utf-8").run

/-- The run of what the layers surround. -/
def route (debug : Bool) (r : Request) (body : Option Bytes) (u : LegacyReply) : Run :=
  match Match.find debug r.path.toList r.method with
  | .page p => p.run r body u
  | .wrongMethod p =>
    let allow := Header.raw "allow" (", ".intercalate p.methods)
    (detailResponse 405 [allow] "Method Not Allowed").run
  | .slash path =>
    match urlOf r path with
    | .ok url => (redirection 307 url []).run
    | .error f => Run.fault f
  | .nothing => (detailResponse 404 [] "Not Found").run

end Changeover.Gateway
