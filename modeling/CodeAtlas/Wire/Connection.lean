import CodeAtlas.Document.Uri
import CodeAtlas.Log
import CodeAtlas.Settings
import CodeAtlas.Wire.Peer
import CodeAtlas.Wire.Protocol

namespace CodeAtlas.Wire

open Text (isBlank)

abbrev Ending := Except Failure Json

/-- What a waiting task waits for. -/
inductive Stage
  | initializing (id : Nat) (value : Json)
  | calling (id : Nat) (method : String)
  | shuttingDown (id : Nat) (process : Nat) (ending : Ending)
  | leaving (process : Nat) (ending : Ending)

structure Task where
  ticket : Nat
  stage : Stage

def Stage.awaits (id : Nat) : Stage → Bool
  | .initializing n _ | .calling n _ | .shuttingDown n _ _ => n == id
  | .leaving .. => false

def Stage.isTimed : Stage → Bool
  | .shuttingDown .. | .leaving .. => true
  | _ => false

structure Connection where
  command : List String
  root : Path
  timeout : Seconds
  ownId : Nat
  processes : List Peer := []
  current : Option Nat := none
  initialized : Bool := false
  pending : List Nat := []
  replies : List (Nat × Except Failure Json) := []
  nextId : Nat := 1
  capabilities : Json := .object []
  serverInfo : Json := .object []
  tasks : List Task := []
  finished : List (Nat × Ending) := []
  sent : List Json := []
  log : List LogEntry := []

namespace Connection

def fresh (command : List String) (root : Path) (timeout : Seconds) (ownId : Nat) :
    Except Failure Connection :=
  if command.isEmpty then .error (.refused .emptyCommand)
  else .ok { command, root, timeout, ownId }

def currentPeer? (c : Connection) : Option Peer := c.current.bind fun i => c.processes[i]?

def isReading (c : Connection) : Bool := c.currentPeer?.any Peer.isReading

/-- Initialized, with a live process whose output is being read. -/
def isRunning (c : Connection) : Bool :=
  c.initialized && c.currentPeer?.any fun p => p.isAlive && p.isReading

def note (level : Level) (message : String) (c : Connection) : Connection :=
  { c with log := c.log ++ [⟨level, .connection, message⟩] }

def setPeer (i : Nat) (f : Peer → Peer) (c : Connection) : Connection :=
  { c with processes := c.processes.modify i f }

def report (ticket : Nat) (ending : Ending) (c : Connection) : Connection :=
  { c with finished := c.finished ++ [(ticket, ending)] }

def wait (ticket : Nat) (stage : Stage) (c : Connection) : Connection :=
  { c with tasks := c.tasks ++ [⟨ticket, stage⟩] }

def dropTask (ticket : Nat) (c : Connection) : Connection :=
  { c with tasks := c.tasks.filter fun t => t.ticket != ticket }

def failPending (e : Failure) (c : Connection) : Connection :=
  { c with pending := [], replies := c.replies ++ c.pending.map fun id => (id, .error e) }

abbrev Attempt (α : Type) := Except Failure α × Connection

variable (b : Behaviour)

def write (message : Json) (c : Connection) (answers : Bool) : Attempt Unit :=
  match c.current, c.currentPeer? with
  | some i, some p =>
    match frameOf message with
    | .error e => (.error e, c)
    | .ok _ =>
      match b.react i p.received message with
      | .refuse reason => (.error (.unavailable (.pipeClosed reason)), c)
      | .take acts =>
        let taken := { p with received := p.received ++ [message] }
        let after := if answers then taken else taken.performAll acts
        (.ok (), { c.setPeer i (fun _ => after) with sent := c.sent ++ [message] })
  | _, _ => (.error (.unavailable .notStarted), c)

def notify (method : String) (params : Json) (c : Connection) : Attempt Unit :=
  write b (notification method params) c false

def answerNull (id : Json) (c : Connection) : Attempt Unit := write b (emptyAnswer id) c true

def sendNote (method : String) (id : Nat) : String := "--> " ++ method ++ " #" ++ toString id

/-- The number of the request that was sent. The request is entered before
it is written; a failed write strikes it out again and uses up its number. -/
def send (method : String) (params : Json) (c : Connection) : Attempt Nat :=
  if !c.isReading then (.error (.unavailable (.outputClosed method)), c)
  else
    let id := c.nextId
    let entered := { c with nextId := id + 1, pending := c.pending ++ [id] }
    match write b (request id method params) (entered.note .debug (sendNote method id)) false with
    | (.ok (), written) => (.ok id, written)
    | (.error e, unwritten) => (.error e, { unwritten with pending := c.pending })

/-- Whether the number of a reply is that of a request: numbers are equal
by value, and truth values count as 0 and 1. -/
def matchesId (reply : Json) (id : Nat) : Bool :=
  match reply with
  | .int n => n == id
  | .bool true => id == 1
  | .real x => x.integer? == some (id : Int)
  | _ => false

def incomingNote (method : Json) (asked : Bool) : String :=
  if asked then "<-- server request " ++ method.display ++ " (answered null)"
  else "<-- notification " ++ method.display

def unknownNote (id : Json) : String :=
  "Dropping response for unknown request id " ++ id.display

def hasReply (id : Json) (c : Connection) : Bool :=
  c.replies.any fun r => matchesId id r.1 && r.2.isOk

/-- Hand a reply to the request it belongs to, if that still waits. -/
def deliver (id : Json) (message : Json) (c : Connection) : Attempt Unit :=
  match id with
  | .list _ | .object _ => (.error .wrongKind, c)
  | id =>
    match c.pending.find? (matchesId id) with
    | none => (.ok (), if c.hasReply id then c else c.note .debug (unknownNote id))
    | some n =>
      (.ok (),
        { c with
          pending := c.pending.filter (· != n)
          replies := c.replies ++ [(n, .ok message)] })

def isInfix (part : List Char) : List Char → Bool
  | [] => part.isEmpty
  | c :: rest => part.isPrefixOf (c :: rest) || isInfix part rest

def isText (s : String) : Json → Bool
  | .text t => t == s
  | _ => false

/-- One message from the server: a request is answered, a notification
noted, a reply delivered. Anything but an object ends the reading. -/
def dispatch (message : Json) (c : Connection) : Attempt Unit :=
  match message with
  | .object fields =>
    match fields.lookup "method", fields.lookup "id" with
    | some method, some id => answerNull b id (c.note .debug (incomingNote method true))
    | some method, none => (.ok (), c.note .debug (incomingNote method false))
    | none, id => deliver (id.getD .null) message c
  | .text s =>
    (.error (if isInfix "method".toList s.toList then .wrongKind else .notObject), c)
  | .unpaired points =>
    let s := points.map Text.Units.character
    (.error (if isInfix "method".toList s then .wrongKind else .notObject), c)
  | .list items => (.error (if items.any (isText "method") then .wrongKind else .notObject), c)
  | _ => (.error .wrongKind, c)

def endReading (i : Nat) (reader : Reader) (c : Connection) : Connection :=
  (c.setPeer i fun p => { p with reader := reader }).failPending (.unavailable .exited)

def streamNote (e : Failure) : String := "Language server stream error: " ++ e.message

/-- Failures of the stream are logged; any other stays with the reader. -/
def breakReading (i : Nat) (e : Failure) (c : Connection) : Connection :=
  if e.isService || e.isRefusal then (c.note .error (streamNote e)).endReading i .finished
  else c.endReading i (.died e)

/-- Read what a process has written, message by message. Each takes at
least one byte, so the bound is never met. -/
def drain (i : Nat) : Nat → Connection → Connection
  | 0, c => c
  | bound + 1, c =>
    match c.processes[i]? with
    | none => c
    | some p =>
      if !p.isReading then c
      else
        match next p.closed p.output with
        | .waiting => c
        | .ended => c.endReading i .finished
        | .broken e => c.breakReading i e
        | .message value rest =>
          if value.isNull then c.endReading i .finished
          else
            match dispatch b value (c.setPeer i fun p => { p with output := rest }) with
            | (.ok (), after) => drain i bound after
            | (.error e, after) => after.breakReading i e

def outputSize (c : Connection) (i : Nat) : Nat :=
  (c.processes[i]?.map fun p => p.output.length).getD 0

def drainAll (c : Connection) : Connection :=
  (List.range c.processes.length).foldl (fun c i => drain b i (c.outputSize i + 1) c) c

def resultOf (method : String) (reply : Json) : Except Failure Json := do
  let error := ((← reply.field "error").getD .null)
  if error.truthy then
    let code ← ((← error.field "code").getD (.int 0)).toInteger
    let message := (← error.field "message").getD (.text "")
    let data := (← error.field "data").getD .null
    throw (.rejected method (.int code) message data)
  return (← reply.field "result").getD .null

def uncleanNote (e : Failure) : String := "Language server did not shut down cleanly: " ++ e.message

def recovers (e : Failure) : Bool :=
  match e with
  | .timedOut => true
  | e => e.isService

/-- The last part of a stop: the process is killed if it lives, the reading
ends before the end of the output is seen, and the connection lets go of
both. A reader that died hands its failure to the stop instead, and stays. -/
def finishStop (ticket process : Nat) (ending : Ending) (c : Connection) : Connection :=
  let killed := { c with initialized := false }.setPeer process Peer.kill
  let released (c : Connection) : Connection :=
    { c.failPending (.unavailable .stopped) with current := none }.report ticket ending
  match killed.current, killed.currentPeer? with
  | some i, some p =>
    match p.reader with
    | .died e => killed.report ticket (.error e)
    | .reading => released (killed.endReading i .finished)
    | .finished => released killed
  | _, _ => released killed

/-- A stop that could not be clean: some failures are only logged, the
others are what the stop reports. -/
def finishUnclean (ticket process : Nat) (e : Failure) (ending : Ending) (c : Connection) :
    Connection :=
  if recovers e then finishStop ticket process ending (c.note .warning (uncleanNote e))
  else finishStop ticket process (.error e) c

def forget (id : Nat) (c : Connection) : Connection :=
  { c with pending := c.pending.filter (· != id), replies := c.replies.filter (·.1 != id) }

def expire (t : Task) (c : Connection) : Connection :=
  let dropped := c.dropTask t.ticket
  match t.stage with
  | .shuttingDown id process ending =>
    finishUnclean t.ticket process .timedOut ending (dropped.forget id)
  | .leaving process ending => finishUnclean t.ticket process .timedOut ending dropped
  | _ => c

/-- A stop with the ending it shall report. A running server is asked to
shut down, unless there is no time for it; a deadline that passes at once
leaves no turn for the answer. -/
def beginStop (ticket : Nat) (ending : Ending) (c : Connection) : Connection :=
  match c.current with
  | none => c.report ticket ending
  | some process =>
    if !c.isRunning then finishStop ticket process ending c
    else if c.timeout.isSpent then finishUnclean ticket process .timedOut ending c
    else
      match send b "shutdown" .null c with
      | (.error e, after) => finishUnclean ticket process e ending after
      | (.ok id, after) =>
        let stage := .shuttingDown id process ending
        let waiting := after.wait ticket stage
        if c.timeout.isInstant then expire ⟨ticket, stage⟩ (drainAll b waiting) else waiting

def askToExit (ticket process : Nat) (ending : Ending) (c : Connection) : Connection :=
  match notify b "exit" .null c with
  | (.error e, after) => finishUnclean ticket process e ending after
  | (.ok (), after) => after.wait ticket (.leaving process ending)

def trimEnd (s : String) : String := String.ofList (s.toList.reverse.dropWhile isBlank).reverse

def readyNote (program : String) (info : Json) : Except Failure String := do
  let name := (← info.field "name").getD (.text program)
  let version := (← info.field "version").getD (.text "")
  return trimEnd ("Language server ready: " ++ name.display ++ " " ++ version.display)

def adopt (result : Json) (c : Connection) : Attempt Unit :=
  let whole := result.orElse (.object [])
  match whole.field "capabilities", whole.field "serverInfo" with
  | .ok capabilities, .ok info =>
    (.ok (), { c with capabilities := (capabilities.getD .null).orElse (.object []),
                      serverInfo := (info.getD .null).orElse (.object []) })
  | .error e, _ | _, .error e => (.error e, c)

/-- The server has accepted; from here on it runs, even if what it says of
itself cannot be shown. -/
def becomeReady (ticket : Nat) (value : Json) (c : Connection) : Connection :=
  let running := { c with initialized := true }
  match readyNote (c.command.headD "") c.serverInfo with
  | .error e => running.report ticket (.error e)
  | .ok message => (running.note .info message).report ticket (.ok value)

def onInitialized (ticket : Nat) (value : Json) (reply : Except Failure Json) (c : Connection) :
    Connection :=
  match reply.bind (resultOf "initialize") with
  | .error e => beginStop b ticket (.error e) c
  | .ok result =>
    match adopt result c with
    | (.error e, after) => beginStop b ticket (.error e) after
    | (.ok (), adopted) =>
      match notify b "initialized" (.object []) adopted with
      | (.error e, after) => beginStop b ticket (.error e) after
      | (.ok (), after) => becomeReady ticket value after

def resume (t : Task) (reply : Except Failure Json) (c : Connection) : Connection :=
  match t.stage with
  | .initializing _ value => onInitialized b t.ticket value reply c
  | .calling _ method => c.report t.ticket (reply.bind (resultOf method))
  | .shuttingDown _ process ending =>
    match reply.bind (resultOf "shutdown") with
    | .ok _ => askToExit b t.ticket process ending c
    | .error e => finishUnclean t.ticket process e ending c
  | .leaving process ending => finishStop t.ticket process ending c

def hasLeft (c : Connection) : Stage → Bool
  | .leaving process _ => (c.processes[process]?).any fun p => !p.isAlive
  | _ => false

/-- One task goes on: the one whose reply came first, else one whose
process has ended. -/
def advance? (c : Connection) : Option Connection :=
  match c.replies with
  | (id, reply) :: rest =>
    let taken := { c with replies := rest }
    match c.tasks.find? fun t => t.stage.awaits id with
    | none => some taken
    | some t => some (resume b t reply (taken.dropTask t.ticket))
  | [] =>
    (c.tasks.find? fun t => c.hasLeft t.stage).map fun t =>
      resume b t (.ok .null) (c.dropTask t.ticket)

/-- Tasks go on one at a time, and whatever was written is read before. -/
def settleWithin (advance : Connection → Option Connection) : Nat → Connection → Connection
  | 0, c => drainAll b c
  | bound + 1, c =>
    let read := drainAll b c
    match advance read with
    | none => read
    | some next => settleWithin advance bound next

/-- A task goes on at most three times. -/
def settlingBound (c : Connection) : Nat :=
  3 * c.tasks.length + c.pending.length + c.replies.length + 1

/-- All that can happen without waiting. -/
def settle (c : Connection) : Connection :=
  settleWithin b (advance? b) c.settlingBound c

def isWaiting (c : Connection) (ticket : Nat) : Bool := c.tasks.any fun t => t.ticket == ticket

def awaitWithin (ticket : Nat) : Nat → Connection → Connection
  | 0, c => c
  | bound + 1, c =>
    if !c.isWaiting ticket then c
    else
      match c.tasks.find? fun t => t.stage.isTimed with
      | none => c
      | some t => awaitWithin ticket bound (settle b (expire t c))

def await (ticket : Nat) (c : Connection) : Connection :=
  awaitWithin b ticket (2 * c.tasks.length) c

def spawnFailure (program : String) (fault : FileFault) : Failure :=
  match fault with
  | .missing _ | .denied _ => .unavailable (.cannotStart program fault)
  | fault => .file fault

def startedNote (command : List String) (processId : Nat) : String :=
  "Started language server " ++ Text.Quoted.quotedList command
    ++ " (pid " ++ toString processId ++ ")"

/-- Start a process and begin the handshake; the value is what the task
reports when it is done. -/
def beginStart (ticket : Nat) (value : Json) (c : Connection) : Connection :=
  match b.launch c.processes.length c.command with
  | .error fault => c.report ticket (.error (spawnFailure (c.command.headD "") fault))
  | .ok () =>
    let launched := { c with
      processes := c.processes ++ [Peer.fresh c.root.toText]
      current := some c.processes.length }
    let started := launched.note .debug (startedNote c.command b.processId)
    let params := initializeParams c.ownId (Document.uriOfPath c.root) c.root.name
    match send b "initialize" params started with
    | (.error e, after) => beginStop b ticket (.error e) after
    | (.ok id, after) => after.wait ticket (.initializing id value)

def beginRequest (ticket : Nat) (method : String) (params : Json) (c : Connection) : Connection :=
  if !c.isRunning then c.report ticket (.error (.unavailable (.notRunning method)))
  else
    match send b method params c with
    | (.error e, after) => after.report ticket (.error e)
    | (.ok id, after) => after.wait ticket (.calling id method)

def doNotify (ticket : Nat) (method : String) (params : Json) (c : Connection) : Connection :=
  match notify b method params c with
  | (.error e, after) => after.report ticket (.error e)
  | (.ok (), after) => after.report ticket (.ok .null)

/-- What can happen to a connection. -/
inductive Event
  | start (ticket : Nat) (value : Json)
  | stop (ticket : Nat)
  | request (ticket : Nat) (method : String) (params : Json)
  | notify (ticket : Nat) (method : String) (params : Json)
  | output (acts : List Act)

def Event.ticket? : Event → Option Nat
  | .start ticket _ | .stop ticket | .request ticket _ _ | .notify ticket _ _ => some ticket
  | .output _ => none

/-- What an event is about, before anything follows from it. -/
def begin (c : Connection) : Event → Connection
  | .start ticket value => beginStart b ticket value c
  | .stop ticket => beginStop b ticket (.ok .null) c
  | .request ticket method params => beginRequest b ticket method params c
  | .notify ticket method params => doNotify b ticket method params c
  | .output acts => c.setPeer (c.processes.length - 1) fun p => p.performAll acts

/-- One event and all that follows from it without waiting; a stop is
waited for. -/
def step (c : Connection) (e : Event) : Connection :=
  let settled := settle b (begin b c e)
  match e with
  | .stop ticket => await b ticket settled
  | _ => settled

def run (c : Connection) (events : List Event) : Connection := events.foldl (step b) c

end Connection

end CodeAtlas.Wire
