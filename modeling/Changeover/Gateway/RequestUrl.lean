import Changeover.Gateway.Fault
import Changeover.Request
import Changeover.Text.Utf8
import Changeover.Url.Host

/-!
# The URL of a request

The URL that a request was sent to, rebuilt from the host it names, if that is one, and its decoded
path. Delimiters within the path are escaped, and so is a second slash at the beginning of a URL without
a host.

A server that knows its own address puts that in the place of a host that is not named, and the scheme is
that of the connection. Requests carry neither here: the scheme is http, and a request without a valid
`host` field that reaches a server with an address is not covered.
-/

namespace Changeover.Gateway

open Text

/-- One character of a path that is put into a URL. -/
def delimiterEscape (c : Char) : List Char :=
  if c == '?' then "%3F".toList
  else if c == '#' then "%23".toList
  else if c == '\\' then "%5C".toList
  else [c]

/-- The host that a request names; one that cannot be a host counts as none. -/
def namedHost (r : Request) : Option String :=
  if Url.isHost r.hostHeader.toList then some r.hostHeader else none

/-- The URL of a request without its query. A path that does not begin with a slash gets one after a
host. -/
def urlStem (host : Option String) (path : List Char) : List Char :=
  let p := path.flatMap delimiterEscape
  match host, p with
  | none, '/' :: '/' :: r => "/%2F".toList ++ r
  | none, _ => p
  | some h, c :: _ => "http://".toList ++ h.toList ++ (if c == '/' then p else '/' :: p)
  | some h, [] => "http://".toList ++ h.toList

/-- The URL of a request for a path, whose query must be readable. -/
def urlOf (r : Request) (path : List Char) : Except Fault (List Char) :=
  let stem := urlStem (namedHost r) path
  if r.query.isEmpty then .ok stem
  else
    match Utf8.decode? r.query with
    | some q => .ok (stem ++ '?' :: q)
    | none => .error .undecodable

/-- The path of a request's URL. -/
def urlPath (r : Request) : Except Fault (List Char) := do
  let url ← urlOf r r.path.toList
  match Url.split url with
  | .ok parts => return parts.path
  | .error e => .error (.unreadableUrl e)

end Changeover.Gateway
