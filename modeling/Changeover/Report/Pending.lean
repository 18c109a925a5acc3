import Changeover.Report.Delivery
import Changeover.Report.Filter

/-!
# Sends in flight

Every event that is to be reported becomes one numbered send, which is held from its scheduling until
it is forgotten after its end. A send writes its event, asks for the client, makes its post and waits for
the answer; between these it may be left off for any time. A wait waits for the sends that are held when it
begins. One for a limited time may leave before they have ended, and then asks the others to stop: what has
been asked starts nothing any more. The single things that can happen are the acts; a turn of the scheduler,
a release and a drain are sequences of acts.
-/

namespace Changeover.Report

/-- What the collector does with a post, and whether it holds the answer back. -/
structure Plan where
  reply : Reply := .status 202
  held : Bool := false

/-- Why an event cannot be written, and how it is shown instead. -/
structure Unwritable where
  shown : String
  fault : WriteFault

/-- How a send has ended: with the answer to its post, without a post, on being stopped, or by a failure
that nothing expects. -/
inductive Ending
  | answered
  | unwritten
  | stopped
  | raised (f : Failure)

/-- How far a send has come. -/
inductive Stage
  | scheduled
  | written
  | waiting (reply : Reply)
  | ended (ending : Ending)

/-- The delivery of one event. -/
structure Send where
  target : String
  event : Event
  unwritable : Option Unwritable := none
  stage : Stage := .scheduled
  /-- Whether it has been asked to stop. -/
  cancelling : Bool := false

/-- What can be seen of an act; posts with the numbers of their sends. -/
structure Effects where
  posts : List (Nat × Post) := []
  events : List Event := []
  records : List Log.Record := []

/-- One effect after another. -/
def Effects.append (a b : Effects) : Effects :=
  ⟨a.posts ++ b.posts, a.events ++ b.events, a.records ++ b.records⟩

namespace Send

/-- Whether the send is still to end. -/
def isOpen (x : Send) : Bool :=
  match x.stage with
  | .ended _ => false
  | _ => true

/-- Whether the send has not begun. -/
def isNew (x : Send) : Bool :=
  match x.stage with
  | .scheduled => true
  | _ => false

/-- Ends a send with an outcome. -/
def finish (x : Send) (ending : Ending) (o : Outcome) : Send × Effects :=
  ({ x with stage := .ended (o.raised.elim ending .raised) }, { records := o.records })

/-- Lets a new send write its event. -/
def write (x : Send) : Send × Effects :=
  match x.stage, x.cancelling, x.unwritable with
  | .scheduled, false, none => ({ x with stage := .written }, {})
  | .scheduled, false, some u => x.finish .unwritten (unwritten x.target u.shown u.fault)
  | _, _, _ => (x, {})

/-- Lets a send that has written its event and has the client make its post, and settles the reply. -/
def post (id : Nat) (reply : Reply) (x : Send) : Send × Effects :=
  match x.stage, x.cancelling with
  | .written, false =>
    ({ x with stage := .waiting reply }, { posts := [(id, Report.post x.target x.event)], events := [x.event] })
  | _, _ => (x, {})

/-- Lets a waiting send have its answer. -/
def answer (x : Send) : Send × Effects :=
  match x.stage with
  | .waiting reply => x.finish .answered (outcome x.target x.event reply)
  | _ => (x, {})

/-- Lets a send that has been asked to stop end. -/
def stop (x : Send) : Send × Effects :=
  (if x.isOpen && x.cancelling then { x with stage := .ended .stopped } else x, {})

/-- Asks a send to stop. -/
def cancel (x : Send) : Send := { x with cancelling := true }

end Send

/-- A wait for sends to end, forever or for a limited time. -/
structure Wait where
  waited : List Nat
  limited : Bool
  /-- Whether the wait is over. -/
  left : Bool

/-- All sends ever scheduled, numbered in order, those that are held, and all waits. -/
structure Pending where
  sends : List Send := []
  held : List Nat := []
  waits : List Wait := []

/-- What can happen to the sends. -/
inductive Act
  | schedule (target : String) (event : Event) (unwritable : Option Unwritable)
  | write (id : Nat)
  | post (id : Nat) (reply : Reply)
  | answer (id : Nat)
  | stop (id : Nat)
  | forget (id : Nat)
  | wait (limited : Bool)
  | leave (n : Nat)

/-- The record of a wait that gave up on `n` sends. -/
def timedOut (n : Nat) : Log.Record :=
  deliveryRecord .warning "tee.drain_timeout" [("pending", .int n)]

namespace Pending

/-- How many sends are held. -/
def size (p : Pending) : Nat := p.held.length

/-- Whether the send of that number is still to end. -/
def isOpen (p : Pending) (id : Nat) : Bool := p.sends[id]?.any Send.isOpen

/-- Holds a new send. -/
def hold (p : Pending) (x : Send) : Pending :=
  { p with sends := p.sends ++ [x], held := p.held ++ [p.sends.length] }

/-- Applies a step to the send of that number. -/
def update (p : Pending) (id : Nat) (step : Send → Send × Effects) : Pending × Effects :=
  match p.sends[id]? with
  | some x => ({ p with sends := p.sends.set id (step x).1 }, (step x).2)
  | none => (p, {})

/-- Asks the sends of these numbers to stop. -/
def cancel (p : Pending) (ids : List Nat) : Pending :=
  { p with sends := p.sends.mapIdx fun id x => if id ∈ ids then x.cancel else x }

/-- Lets a wait be over. One without a limit is over only when all that it waits for have ended; one with a
limit asks those that have not ended to stop. -/
def leave (p : Pending) (n : Nat) (w : Wait) : Pending × Effects :=
  let late := w.waited.filter p.isOpen
  let p' := { p with waits := p.waits.set n { w with left := true } }
  if late.isEmpty then (p', {})
  else if w.limited then (p'.cancel late, { records := [timedOut late.length] })
  else (p, {})

/-- Does one act. A send is forgotten only when it is over; a wait for nothing is over at once. -/
def act (p : Pending) : Act → Pending × Effects
  | .schedule target event unwritable => (p.hold { target, event, unwritable }, {})
  | .write id => p.update id Send.write
  | .post id reply => p.update id (Send.post id reply)
  | .answer id => p.update id Send.answer
  | .stop id => p.update id Send.stop
  | .forget id => ({ p with held := p.held.filter fun i => i != id || p.isOpen i }, {})
  | .wait limited =>
    ({ p with waits := p.waits ++ [{ waited := p.held, limited, left := p.held.isEmpty }] }, {})
  | .leave n =>
    match p.waits[n]? with
    | some w => if w.left then (p, {}) else p.leave n w
    | none => (p, {})

/-- Does several acts. -/
def perform (p : Pending) : List Act → Pending × Effects
  | [] => (p, {})
  | a :: r =>
    let (p₁, e₁) := p.act a
    let (p₂, e₂) := p₁.perform r
    (p₂, e₁.append e₂)

/-- The acts of a new send that runs until it waits. -/
def startActs (plan : Plan) (id : Nat) : List Act :=
  [.write id, .post id plan.reply] ++ if plan.held then [] else [.answer id]

/-- The acts of a turn in which everything runs until it waits. -/
def turn (p : Pending) (plan : Plan) : List Act :=
  p.held.map .stop ++ p.held.map .forget ++
    (p.held.filter fun id => p.sends[id]?.any Send.isNew).flatMap (startActs plan) ++ p.held.map .forget

/-- Lets everything run until it waits. -/
def run (p : Pending) (plan : Plan) : Pending × Effects := p.perform (p.turn plan)

/-- Lets everything run, without holding back an answer any more, and then answers every post whose
answer has been held back. -/
def release (p : Pending) (plan : Plan) : Pending × Effects :=
  p.perform (p.turn { plan with held := false } ++ p.held.map .answer ++ p.held.map .forget)

/-- Waits for the sends that are held now, and lets everything run meanwhile. When the time is limited,
those that do not end are asked to stop; they are held until the next turn. -/
def drain (p : Pending) (plan : Plan) (limited : Bool) : Pending × Effects :=
  p.perform (.wait limited :: p.turn plan ++ [.leave p.waits.length])

end Pending

/-- The record of a request that is not reported. -/
def skipped (path : String) : Log.Record :=
  deliveryRecord .debug "tee.skipped" [("path", .text path)]

/-- The event of a finished request, if it is to be reported. -/
def event? (s : Settings) (a : Snapshot) (latency : Duration) (isRobot : Bool) (status : Int) :
    Option Event :=
  if isReported a.path.toList then some (Event.ofSnapshot s a latency isRobot status) else none

/-- Schedules the event of a finished request, or records why it is not reported. The first part of
the answer says whether a send has been scheduled. -/
def offer (s : Settings) (p : Pending) (a : Snapshot) (latency : Duration) (isRobot : Bool)
    (status : Int) : Bool × Pending × Effects :=
  match event? s a latency isRobot status with
  | some e =>
    let (p', effects) := p.act (.schedule s.collectorUrl e none)
    (true, p', effects)
  | none => (false, p, { records := [skipped a.path] })

end Changeover.Report
