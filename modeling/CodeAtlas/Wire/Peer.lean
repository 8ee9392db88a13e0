import CodeAtlas.Wire.Frame

namespace CodeAtlas.Wire

inductive Act
  | emit (bytes : List UInt8)
  | close
  /-- the process ends, its output stays open -/
  | leave (code : Int)

/-- A message may be refused by the pipe; else the process takes it. -/
inductive Reaction
  | refuse (reason : String)
  | take (acts : List Act)

/-- Processes are numbered in the order of their start, and started by a
command. A reaction may depend on everything the process has taken before. -/
structure Behaviour where
  launch : Nat → List String → Except FileFault Unit
  react : Nat → List Json → Json → Reaction
  processId : Nat

/-- Where the reading of a process's output stands. -/
inductive Reader
  | reading
  | finished
  | died (failure : Failure)

structure Peer where
  folder : String
  received : List Json
  output : List UInt8
  closed : Bool
  exitCode : Option Int
  killed : Bool
  reader : Reader

namespace Peer

def fresh (folder : String) : Peer := ⟨folder, [], [], false, none, false, .reading⟩

def perform (p : Peer) : Act → Peer
  | .emit bytes => if p.closed then p else { p with output := p.output ++ bytes }
  | .close => { p with closed := true }
  | .leave code => { p with exitCode := some (p.exitCode.getD code) }

def performAll (p : Peer) (acts : List Act) : Peer := acts.foldl perform p

def isAlive (p : Peer) : Bool := p.exitCode.isNone

def isReading (p : Peer) : Bool :=
  match p.reader with
  | .reading => true
  | _ => false

def killCode : Int := -9

/-- Of a process that has ended on its own nothing is left to kill. -/
def kill (p : Peer) : Peer :=
  if p.isAlive then { p with exitCode := some killCode, killed := true, closed := true } else p

end Peer

end CodeAtlas.Wire
