import CodeAtlas.Client
import CodeAtlas.Disk
import CodeAtlas.Wire.Connection

namespace CodeAtlas.Wire

structure Online where
  connection : Connection
  nextTicket : Nat
  disk : Disk

namespace Online

variable (b : Behaviour)

def start (connection : Connection) (disk : Disk) : Online := ⟨connection, 1, disk⟩

/-- One event and what it reported under its ticket. A task that waits for
ever has no report. -/
def turn (event : Nat → Connection.Event) (s : Online) : Turn Online Json :=
  let c := s.connection.step b (event s.nextTicket)
  let result := (c.finished.lookup s.nextTicket).getD (.error .timedOut)
  let quiet := { c with finished := [], log := [] }
  ⟨result, c.log, { s with connection := quiet, nextTicket := s.nextTicket + 1 }⟩

def world (env : Environment) (cwd : List String) : World Online where
  isRunning s := s.connection.isRunning
  capabilities s := s.connection.capabilities
  request method params s := turn b (fun ticket => .request ticket method params) s
  notify method params s :=
    let t := turn b (fun ticket => .notify ticket method params) s
    ⟨t.result.map fun _ => (), t.notes, t.world⟩
  readFile p s := (s.disk.read cwd p, s)
  absolute p := p.normalise env cwd

end Online

end CodeAtlas.Wire
