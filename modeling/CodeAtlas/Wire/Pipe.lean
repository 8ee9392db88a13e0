import CodeAtlas.Wire.Connection

namespace CodeAtlas.Wire

namespace Connection

variable (b : Behaviour)

/-- Whether a call that is held back waits for the reply to a request. -/
def isHeld (held : List Nat) (c : Connection) (id : Nat) : Bool :=
  c.tasks.any fun t => t.stage.awaits id && held.contains t.ticket

def advanceBut? (held : List Nat) (c : Connection) : Option Connection :=
  match c.replies.filter fun r => !c.isHeld held r.1 with
  | [] =>
    (c.tasks.find? fun t => c.hasLeft t.stage && !held.contains t.ticket).map fun t =>
      resume b t (.ok .null) (c.dropTask t.ticket)
  | r :: rest =>
    advance? b { c with replies := r :: rest ++ c.replies.filter fun r => c.isHeld held r.1 }

/-- The pipe breaks under what a task has written. That goes before any reply
that has come. -/
def breakOff (t : Task) (reason : String) (c : Connection) : Connection :=
  let e := Failure.unavailable (.pipeClosed reason)
  let dropped := c.dropTask t.ticket
  match t.stage with
  | .initializing id _ => beginStop b t.ticket (.error e) (dropped.forget id)
  | .calling id _ => (dropped.forget id).report t.ticket (.error e)
  | .shuttingDown id process ending => finishUnclean t.ticket process e ending (dropped.forget id)
  | .leaving process ending => finishUnclean t.ticket process e ending dropped

end Connection

/-- A connection whose pipe may be full. A full pipe is handed a message all
the same, but holds its caller back until it has taken it: the request is out
meanwhile, and may be replied to or fail. -/
structure Piped where
  connection : Connection
  held : List Nat := []

namespace Piped

variable (b : Behaviour)

inductive Event
  /-- a call whose messages are taken at once, or what the server does -/
  | goes (e : Connection.Event)
  /-- a call that meets a full pipe with its first message -/
  | holds (e : Connection.Event)
  /-- the pipe takes what a call has written -/
  | takes (ticket : Nat)
  /-- the pipe breaks under what a call has written -/
  | breaks (ticket : Nat) (reason : String)
  | expires (ticket : Nat)

def release (ticket : Nat) (p : Piped) : Piped := { p with held := p.held.filter (· != ticket) }

def heldTask? (ticket : Nat) (p : Piped) : Option Task :=
  p.connection.tasks.find? fun t => t.ticket == ticket && p.held.contains ticket

def begin (p : Piped) : Event → Piped
  | .goes e => { p with connection := p.connection.begin b e }
  | .holds e =>
    let begun := p.connection.begin b e
    ⟨begun, p.held ++ e.ticket?.toList.filter begun.isWaiting⟩
  | .takes ticket => p.release ticket
  | .breaks ticket reason =>
    match p.heldTask? ticket with
    | none => p
    | some t => { p with connection := p.connection.breakOff b t reason }.release ticket
  | .expires ticket =>
    match p.connection.tasks.find? fun t => t.ticket == ticket && t.stage.isTimed with
    | none => p
    | some t => { p with connection := p.connection.expire t }

def settle (p : Piped) : Piped :=
  let c := p.connection
  { p with connection := c.settleWithin b (Connection.advanceBut? b p.held) c.settlingBound }

def step (p : Piped) (e : Event) : Piped := settle b (begin b p e)

def run (p : Piped) (events : List Event) : Piped := events.foldl (step b) p

end Piped

end CodeAtlas.Wire
