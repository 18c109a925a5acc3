import Changeover.Gateway.RedirectLayer
import Changeover.Proofs.ConsentCookie

/-!
# What the redirect layer sends

The messages of the layer, told from the decision and from the messages of what it surrounds: a request
that is let through keeps all its messages and gets the fields of the consent update at the end of every
start (`messages_redirectLayer_pass`); one that is redirected gets the answer of the layer and none of
the messages inside (`messages_redirectLayer_redirect`).
-/

namespace Changeover

open Text

/-- The snapshot of a request whose target is a path. -/
def Request.plain (r : Request) : Snapshot :=
  { hostHeader := r.hostHeader
    path := r.path
    queryString := Latin1.text r.query
    headers := Header.group r.headers
    cookies := Cookie.ofHeaders r.headers }

/-- A snapshot differs from the plain one in the host and the path that the target names. -/
theorem Snapshot.ofRequest_eq_ok {r : Request} {a : Snapshot} (h : ofRequest r = .ok a) :
    ∃ host path, target r.path.toList = .ok (host, path) ∧
      a = { r.plain with urlHost := String.ofList host, path := String.ofList path } := by
  unfold ofRequest at h
  cases ht : target r.path.toList with
  | error e =>
    rw [ht] at h
    cases h
  | ok parts =>
    rw [ht] at h
    cases h
    exact ⟨parts.1, parts.2, rfl, rfl⟩

theorem Snapshot.ofRequest_of_slash {r : Request} (h : r.path.toList.head? = some '/') :
    ofRequest r = .ok r.plain := by
  have htarget : target r.path.toList = .ok ([], r.path.toList) := by
    cases hp : r.path.toList with
    | nil => rw [hp] at h; cases h
    | cons c rest =>
      rw [hp] at h
      cases h
      rfl
  rw [ofRequest, htarget]
  show Except.ok _ = _
  rw [String.ofList_toList]
  rfl

namespace Gateway

/-- The message with fields added at the end, if it is a start. -/
def Message.withFields (extra : List RawHeader) : Message → Message
  | .start status fields => .start status (fields ++ extra)
  | m => m

/-- The fields of a start. -/
def Message.fields? : Message → Option (List RawHeader)
  | .start _ fields => some fields
  | _ => none

/-- The status of a start. -/
def Message.status? : Message → Option Int
  | .start status _ => some status
  | _ => none

namespace Run

variable (r : Run) (extra : List RawHeader)

/-- The fields of each response that is started. -/
def starts : List (List RawHeader) := r.messages.filterMap Message.fields?

theorem messages_append (a b : List Entry) :
    messages { entries := a ++ b } = messages { entries := a } ++ messages { entries := b } :=
  List.filterMap_append ..

theorem messages_cons_sent (m : Message) (es : List Entry) :
    messages { entries := .sent m :: es } = m :: messages { entries := es } := rfl

theorem messages_cons (e : Entry) (es : List Entry) :
    messages { entries := e :: es } = messages { entries := [e] } ++ messages { entries := es } :=
  messages_append [e] es

theorem messages_withHeaders :
    (r.withHeaders extra).messages = r.messages.map (Message.withFields extra) := by
  rw [messages, messages, withHeaders, List.filterMap_map, List.map_filterMap]
  congr 1
  funext e
  cases e with
  | sent m => cases m <;> rfl
  | _ => rfl

theorem starts_eq_of_messages {l : List Message}
    (h : r.messages = l.map (Message.withFields extra)) :
    r.starts = (l.filterMap Message.fields?).map (· ++ extra) := by
  rw [starts, h, List.filterMap_map, List.map_filterMap]
  congr 1
  funext m
  cases m <;> rfl

theorem status?_eq : r.status? = (r.messages.filterMap Message.status?).getLast? := by
  rw [status?]
  congr 2

theorem status?_eq_of_messages {r' : Run} (h : r.messages = r'.messages.map (Message.withFields extra)) :
    r.status? = r'.status? := by
  rw [status?_eq, status?_eq, h, List.filterMap_map]
  congr 2
  funext m
  cases m <;> rfl

end Run

section Layer

variable {s : Settings} {exempt : List Char → Bool} {resolve : Resolver} {r : Request} {a : Snapshot}
  {d : Decision} {cookies : List RawHeader} (inner : Run)

theorem redirectLayer_exempt (h : exempt r.path.toList = true) :
    redirectLayer s exempt resolve (.http r) inner = inner :=
  if_pos h

theorem redirectLayer_decided (h : exempt r.path.toList = false) (ha : Snapshot.ofRequest r = .ok a)
    (hd : resolve a = some d) :
    redirectLayer s exempt resolve (.http r) inner = (carryOut s r d inner).after [.resolved a.path] := by
  simp only [redirectLayer, h, Bool.false_eq_true, if_false, ha, hd]

theorem messages_redirectLayer_redirect {url : String} (hc : SetCookie.ofUpdate s d.cookie = .ok cookies)
    (h : exempt r.path.toList = false) (ha : Snapshot.ofRequest r = .ok a) (hd : resolve a = some d)
    (hurl : d.destination = some url) :
    (redirectLayer s exempt resolve (.http r) inner).messages =
      (redirection 302 url.toList cookies).messages := by
  rw [redirectLayer_decided inner h ha hd, carryOut, hc, hurl]
  rfl

theorem messages_redirectLayer_pass (hc : SetCookie.ofUpdate s d.cookie = .ok cookies)
    (h : exempt r.path.toList = false) (ha : Snapshot.ofRequest r = .ok a) (hd : resolve a = some d)
    (hurl : d.destination = none) :
    (redirectLayer s exempt resolve (.http r) inner).messages =
      inner.messages.map (Message.withFields cookies) := by
  rw [redirectLayer_decided inner h ha hd, carryOut, hc, hurl]
  exact Run.messages_withHeaders inner _

end Layer

end Gateway

end Changeover
