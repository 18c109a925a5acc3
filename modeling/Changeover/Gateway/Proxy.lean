import Changeover.Gateway.RequestUrl
import Changeover.Gateway.Run
import Changeover.Url.Path
import Changeover.Url.Target

/-!
# Passing requests on

A request is forwarded to the legacy site as it was received, and the answer is relayed. The fields
that belong to one connection are left out in both directions, and the length of the body is stated
anew. A failure of transport becomes an answer of its own.
-/

namespace Changeover.Gateway

open Text

/-- The names of the fields that belong to one connection. -/
def hopByHop : List String :=
  ["connection", "keep-alive", "proxy-authenticate", "proxy-authorization", "te", "trailer",
    "transfer-encoding", "upgrade"]

/-- Whether a request's field is passed on. -/
def isForwarded (h : RawHeader) : Bool :=
  let name := String.ofList (lower (Latin1.ofBytes h.1))
  !hopByHop.contains name && name != "host"

/-- The path as it was sent, or the decoded one written anew. -/
def forwardedPath (r : Request) : Except Fault Bytes :=
  match r.rawPath with
  | some (b :: rest) => .ok (before 63 (b :: rest))
  | _ => do
    let path ← urlPath r
    return Utf8.encode (Url.escapePath path)

/-- The target of the forwarded request. -/
def forwardedTarget (r : Request) : Except Fault Url.Target := do
  let path ← forwardedPath r
  let raw := if r.query.isEmpty then path else path ++ 63 :: r.query
  match Url.Target.ofBytes raw with
  | .ok t => return t
  | .error .notAscii => .error .undecodable
  | .error .invalid => .error .invalidTarget

/-- An answer of the legacy site, or its failure. -/
inductive LegacyReply
  | answered (r : Response)
  | failed (f : Failure)

/-- How header text of an answer is read. -/
inductive HeaderCoding
  | latin1
  | utf8

/-- The coding of the fields of an answer: UTF-8 when all of them can be read so. -/
def HeaderCoding.of (hs : List RawHeader) : HeaderCoding :=
  if hs.all fun h => (Utf8.decode? h.1).isSome && (Utf8.decode? h.2).isSome then .utf8 else .latin1

/-- Reads header text. -/
def HeaderCoding.read (c : HeaderCoding) (b : Bytes) : List Char :=
  match c with
  | .latin1 => Latin1.ofBytes b
  | .utf8 => Utf8.decodeLossy b

/-- The small letters of the ASCII capitals. -/
def lowerBytes (b : Bytes) : Bytes := b.map fun x => if 65 ≤ x && x ≤ 90 then x + 32 else x

/-- Whether a field of an answer is left out. Only an answer without a body keeps its own length. -/
def isDropped (isHead : Bool) (name : List Char) : Bool :=
  let n := String.ofList name
  hopByHop.contains n || n == "content-encoding" || (n == "content-length" && !isHead)

/-- A field's name in small letters and its value, as they are read. -/
def readField (c : HeaderCoding) (h : RawHeader) : List Char × List Char :=
  (lower (c.read (lowerBytes h.1)), c.read h.2)

/-- Writes a field, whose text must fit into single bytes. -/
def writeField (f : List Char × List Char) : Except Fault RawHeader :=
  match Latin1.toBytes? f.1, Latin1.toBytes? f.2 with
  | some n, some v => .ok (n, v)
  | _, _ => .error .unencodable

/-- The fields of an answer, with the length of its body when it has a body and states none. -/
def statedHeaders (a : Response) : List RawHeader :=
  let states (h : RawHeader) : Bool := Latin1.ofBytes (lowerBytes h.1) == "content-length".toList
  if a.body.isEmpty || a.headers.any states then a.headers
  else a.headers ++ [Header.raw "Content-Length" (toString a.body.length)]

/-- Whether an answer of that status states a length. -/
def statesLength (status : Int) : Bool := !(status < 200 || status == 204 || status == 304)

/-- The length of a body as a field. -/
def lengthField (body : Bytes) : RawHeader :=
  Header.raw "content-length" (toString body.length)

/-- The answer that is relayed. -/
def relay (method : String) (a : Response) : Except Fault Response := do
  let isHead := method == "HEAD"
  let stated := statedHeaders a
  let coding := HeaderCoding.of stated
  let kept := (stated.map (readField coding)).filter fun f => !isDropped isHead f.1
  let relayed ← kept.mapM writeField
  let own := if isHead || !statesLength a.status then [] else [lengthField a.body]
  return { a with headers := own ++ relayed }

/-- A plain text answer. -/
def plainText (status : Int) (text : String) : Response :=
  let body := Utf8.encode text.toList
  { status
    headers := [lengthField body, Header.raw "content-type" "text/plain; charset=utf-8"]
    body }

/-- The record of a failure of the legacy site. -/
def legacyFailed (path : List Char) (method : String) (f : Failure) : Log.Record :=
  { logger := "routes.legacy_routes", level := .error, event := "legacy.upstream_failed"
    fields := [("path", .text (String.ofList path)), ("method", .text method),
      ("error", .text f.message), ("exc_type", .text f.name)]
    style := .bound }

/-- The run after a failure of the legacy site. -/
def afterFailure (r : Request) : Failure → Run
  | .transport name message =>
    match urlPath r with
    | .error f => Run.fault f
    | .ok path =>
      (plainText 502 "Bad Gateway").run.after
        [.logged (legacyFailed path r.method (.transport name message))]
  | f => Run.fault (.foreign f)

/-- The run after the legacy site's answer. -/
def afterAnswer (r : Request) (u : LegacyReply) : Run :=
  match u with
  | .failed f => afterFailure r f
  | .answered a =>
    match relay r.method a with
    | .ok response => response.run
    | .error f => Run.fault f

/-- The request that is forwarded. -/
def forwarding (r : Request) (t : Url.Target) (body : Bytes) : Forwarded :=
  { method := r.method
    target := String.ofList t.text
    headers := r.headers.filter isForwarded
    body }

/-- Forwards a request; there is no body when the client has gone. -/
def forward (r : Request) (body : Option Bytes) (u : LegacyReply) : Run :=
  match forwardedTarget r with
  | .error f => Run.fault f
  | .ok t =>
    match body with
    | none => Run.fault .disconnected
    | some b => (afterAnswer r u).after [.forwarded (forwarding r t b)]

end Changeover.Gateway
