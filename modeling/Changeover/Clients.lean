import Changeover.Settings.Basic
import Changeover.Url.Base

/-!
# Shared clients

There is one client for the collector and one for the legacy site, each created at its first use and
kept until it is closed; one whose URL is not acceptable cannot be created. Uses may overlap: a use that
finds no open client waits for a lock, and looks again once it holds it. `step` takes one use from one
waiting point to the next, so a run is any sequence of steps of any uses.
-/

namespace Changeover

/-- What a client is for. -/
inductive ClientKind
  | collector
  | legacy
  deriving DecidableEq, Repr

/-- A client. -/
structure Client where
  kind : ClientKind
  baseUrl : String
  timeout : Float
  followsRedirects : Bool := false
  closed : Bool := false

/-- The URL that the requests of a client start from. -/
def ClientKind.baseUrl (s : Settings) : ClientKind → Except Url.BaseFault String
  | .collector => .ok ""
  | .legacy => (Url.normalizeBase s.legacyOrigin.toList).map String.ofList

/-- The client that the settings ask for. -/
def Client.ofSettings (s : Settings) (kind : ClientKind) : Except Url.BaseFault Client := do
  let baseUrl ← kind.baseUrl s
  return { kind, baseUrl, timeout := s.httpTimeout }

/-- All clients ever created, numbered in order, and the two that are kept. -/
structure Clients where
  all : List Client := []
  collector : Option Nat := none
  legacy : Option Nat := none
  /-- Whether somebody holds the lock for creating clients. -/
  locked : Bool := false

/-- A use of the clients, at one of its waiting points. -/
inductive ClientUse
  | asking (kind : ClientKind)
  | queued (kind : ClientKind)
  | creating (kind : ClientKind)
  | holding (kind : ClientKind) (client : Nat)
  | failed (fault : Url.BaseFault)
  | closing
  | closingRest (left : List Nat)
  | closed
  deriving DecidableEq, Repr

namespace Clients

/-- The kept client of a kind. -/
def kept (c : Clients) : ClientKind → Option Nat
  | .collector => c.collector
  | .legacy => c.legacy

/-- Keeps a client. -/
def keep (c : Clients) (kind : ClientKind) (client : Nat) : Clients :=
  match kind with
  | .collector => { c with collector := some client }
  | .legacy => { c with legacy := some client }

/-- Whether a client is open. -/
def isOpen (c : Clients) (client : Nat) : Bool :=
  match c.all[client]? with
  | some x => !x.closed
  | none => false

/-- The kept client of a kind, if it is open. -/
def usable (c : Clients) (kind : ClientKind) : Option Nat := (c.kept kind).filter c.isOpen

/-- Adds and keeps a client. -/
def add (c : Clients) (x : Client) : Clients :=
  { c with all := c.all ++ [x] }.keep x.kind c.all.length

/-- Creates and keeps a client for a use, which then holds it. -/
def create (c : Clients) (s : Settings) (kind : ClientKind) : Clients × ClientUse :=
  match Client.ofSettings s kind with
  | .ok x => (c.add x, .holding kind c.all.length)
  | .error e => (c, .failed e)

/-- Closes a client. -/
def close (c : Clients) (client : Nat) : Clients :=
  { c with all := c.all.modify client fun x => { x with closed := true } }

/-- The kept clients, that of the collector first. -/
def keptList (c : Clients) : List Nat := c.collector.toList ++ c.legacy.toList

/-- Closes the first client of the list that is open, and gives the clients after it; without one,
forgets the kept clients. -/
def closeNext (c : Clients) : List Nat → Clients × ClientUse
  | [] => ({ c with collector := none, legacy := none }, .closed)
  | x :: r => if c.isOpen x then (c.close x, .closingRest r) else closeNext c r

/-- Takes a use to its next waiting point; nothing when it is over or the lock is held by another. -/
def step (s : Settings) (c : Clients) : ClientUse → Option (Clients × ClientUse)
  | .asking kind =>
    match c.usable kind with
    | some x => some (c, .holding kind x)
    | none => some (c, .queued kind)
  | .queued kind => if c.locked then none else some ({ c with locked := true }, .creating kind)
  | .creating kind =>
    match c.usable kind with
    | some x => some ({ c with locked := false }, .holding kind x)
    | none =>
      let (c', u) := c.create s kind
      some ({ c' with locked := false }, u)
  | .closing => some (c.closeNext c.keptList)
  | .closingRest left => some (c.closeNext left)
  | .holding _ _ | .failed _ | .closed => none

/-- Takes a use as far as it gets in `fuel` steps. -/
def advance (s : Settings) : Nat → Clients → ClientUse → Clients × ClientUse
  | 0, c, u => (c, u)
  | fuel + 1, c, u =>
    match c.step s u with
    | none => (c, u)
    | some (c', u') => advance s fuel c' u'

/-- Takes several uses, one after the other, as far as they get. -/
def advanceAll (s : Settings) (c : Clients) (us : List ClientUse) : Clients × List ClientUse :=
  us.foldl (fun st u =>
    let (c', u') := advance s 4 st.1 u
    (c', st.2 ++ [u'])) (c, [])

/-- Takes or gives back the lock. -/
def setLock (c : Clients) (locked : Bool) : Clients := { c with locked }

/-- Uses a client `n` times at once. When the lock is held, all of them have asked before any of them
can create a client. -/
def get (s : Settings) (c : Clients) (kind : ClientKind) (n : Nat) (held : Bool) :
    Clients × List ClientUse :=
  let uses := List.replicate n (ClientUse.asking kind)
  if held then
    let (c₁, us) := advanceAll s (c.setLock true) uses
    advanceAll s (c₁.setLock false) us
  else advanceAll s c uses

/-- Closes the kept clients. -/
def closeAll (s : Settings) (c : Clients) : Clients := (advance s 4 c .closing).1

/-- Closes the newest client itself. -/
def closeNewest (c : Clients) : Clients := c.close (c.all.length - 1)

end Clients

end Changeover
