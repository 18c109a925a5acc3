import Changeover.Header
import Changeover.Text.Cut
import Changeover.Text.Percent

/-!
# Requests

A request as the server hands it over: the decoded path beside the raw one, which may be missing, and
the undecoded query. The address of the server itself and the scheme of the connection are left out.
Nothing reads them but the URL of a request (`Gateway.urlOf`), which takes the server to have no address
and the scheme to be http.
-/

namespace Changeover

open Text

/-- A request without its body. -/
structure Request where
  method : String := "GET"
  /-- The decoded path. -/
  path : String := "/"
  /-- The path as it was sent. -/
  rawPath : Option Bytes := none
  query : Bytes := []
  headers : List RawHeader := []

namespace Request

/-- A request for a target as it was sent: its path ends at the first `?`. -/
def ofTarget (method : String) (target : Bytes) (headers : List RawHeader) : Request :=
  let rawPath := before 63 target
  { method
    path := String.ofList (Percent.decode (Latin1.ofBytes rawPath))
    rawPath := some rawPath
    query := after 63 target
    headers }

/-- The first `host` header. -/
def hostHeader (r : Request) : String := ((Header.rawValue? r.headers "host").map Latin1.text).getD ""

end Request

/-- What a client has opened: a request, or a connection of another kind. -/
inductive Connection
  | http (request : Request)
  | other

end Changeover
