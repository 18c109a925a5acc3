import Changeover.Cookie
import Changeover.Query
import Changeover.Request
import Changeover.Url.Path
import Changeover.Url.Split

/-!
# Snapshots of requests

The parts of a request that decisions are made from. A target in absolute form is taken apart, so
that the host it names stands beside the path it names.
-/

namespace Changeover

open Text

/-- The inspected parts of a request. -/
structure Snapshot where
  /-- The host of a target in absolute form. -/
  urlHost : String := ""
  /-- The value of the `host` header. -/
  hostHeader : String := ""
  path : String := "/"
  queryString : String := ""
  /-- The values of each header, by canonical name. -/
  headers : Table (List String) := []
  cookies : Table String := []

namespace Snapshot

/-- Whether a path is a whole URL. -/
def isAbsolute (path : List Char) : Bool :=
  "http://".toList.isPrefixOf path || "https://".toList.isPrefixOf path

/-- The host and the path of a target; an empty path is the root. -/
def target (path : List Char) : Except Url.SplitError (List Char × List Char) :=
  if isAbsolute path then do
    let parts ← Url.split path
    return (parts.authority, if parts.path.isEmpty then ['/'] else parts.path)
  else .ok ([], if path.isEmpty then ['/'] else path)

/-- The snapshot of a request, unless its target is an unreadable URL. -/
def ofRequest (r : Request) : Except Url.SplitError Snapshot := do
  let (urlHost, path) ← target r.path.toList
  return {
    urlHost := String.ofList urlHost
    hostHeader := r.hostHeader
    path := String.ofList path
    queryString := Latin1.text r.query
    headers := Header.group r.headers
    cookies := Cookie.ofHeaders r.headers }

/-- The host of the target, or else the one of the header. -/
def host (a : Snapshot) : String := if a.urlHost.isEmpty then a.hostHeader else a.urlHost

/-- The parameters of the query, in order. -/
def parameters (a : Snapshot) : List Query.Pair := Query.parse a.queryString.toList

/-- The first value of a parameter. -/
def parameter? (a : Snapshot) (name : String) : Option String :=
  (Query.first? name.toList a.parameters).map String.ofList

/-- The first value of a header; empty when there is none. -/
def header (a : Snapshot) (name : String) : String := Header.value a.headers name

/-- The escaped path and the query as they stood in the request. -/
def requestUri (a : Snapshot) : String :=
  let path := String.ofList (Url.escapePath a.path.toList)
  if a.queryString.isEmpty then path else path ++ "?" ++ a.queryString

end Snapshot

end Changeover
