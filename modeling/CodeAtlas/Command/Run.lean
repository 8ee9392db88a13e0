import CodeAtlas.CallTrace
import CodeAtlas.Command.Console
import CodeAtlas.Command.EnvFile
import CodeAtlas.Command.Invocation
import CodeAtlas.Diagram
import CodeAtlas.Wire.Online

namespace CodeAtlas.Command

def programVersion : String := "0.1.0"

/-- What one run leaves to the next. -/
structure Workplace where
  env : Environment
  cwd : List String
  disk : Disk
  settings : SharedSettings

/-- A status, or the failure that broke the run off; the texts written; the
messages sent to the server. -/
structure Report where
  status : Except Failure Int
  out : String
  err : String
  sent : List Json

/-- What is left to other libraries. One loads the variables of a file: from the
environment, and from what reading the file gave, it makes an environment, with
what there was to say meanwhile and why it was broken off. The other draws a
status line, as the environment wants it shown. -/
structure Toolkit where
  load : Environment → Except Failure (List UInt8) → Environment × String × Option Failure
  line : Environment → Console.Tone → String → String

def Toolkit.standard : Toolkit where
  load := EnvFile.loadFrom
  line env := Console.line (.ofEnvironment env)

def Report.quiet (status : Except Failure Int) : Report := ⟨status, "", "", []⟩

def Report.page (status : Int) (text : String) : Report := ⟨.ok status, text, "", []⟩

def Report.complaint (x : Toolkit) (env : Environment) (status : Int) (tone : Console.Tone)
    (text : String) : Report :=
  ⟨.ok status, "", x.line env tone text, []⟩

def Report.ofHalt : Halt → Report
  | .help page => .page 0 page
  | .misuse text => ⟨.ok 2, "", text, []⟩

def Report.after (err : String) (r : Report) : Report := { r with err := err ++ r.err }

/-- What is given on the command line goes before the environment. -/
structure Overrides where
  command : Option (List String)
  workspace : Option Path
  method : Option String
  maxDepth : Slot Int

/-- A blank depth cannot be compared, which shows once the rest is in order. -/
def Overrides.apply (o : Overrides) (s : Settings) : Except Failure Settings := do
  let checked ← { s with
    command := o.command.getD s.command
    workspace := o.workspace.or s.workspace
    method := o.method.getD s.method
    maxDepth := o.maxDepth.get?.getD s.maxDepth }.check
  match o.maxDepth with
  | .blank => throw .wrongKind
  | _ => return checked

def nonEmpty : Option String → Option String
  | some "" => none
  | s => s

def overridesOf (place : Place) (method : Option String) (maxDepth : Slot Int) :
    Except Failure Overrides := do
  let command ← (nonEmpty place.server).mapM Text.Words.split
  return ⟨command, place.workspace, method, maxDepth⟩

def settingsFor (env : Environment) (shared : SharedSettings)
    (overrides : Except Failure Overrides) :
    Except Failure Settings × SharedSettings :=
  match overrides with
  | .error e => (.error e, shared)
  | .ok o =>
    let (s, known) := shared.get env
    (s.bind o.apply, known)

/-- What a session produced, with what was logged and sent. -/
structure Visit (α : Type) where
  result : Except Failure α
  log : List LogEntry
  sent : List Json

def connectNote (command : List String) (root : Path) : LogEntry :=
  ⟨.debug, .command, "Connecting to " ++ " ".intercalate command ++ " in " ++ root.toText⟩

/-- Start the server, do the work, and stop the server whatever came of the
work. A failure to stop replaces the work's result. -/
def visit {α : Type} (b : Wire.Behaviour) (w : Workplace) (s : Settings)
    (work : World Wire.Online → Client Wire.Online α) : Visit α :=
  let opened := do
    let root ← (s.workspace.getD ⟨.root, w.cwd⟩).resolve w.cwd
    let connection ← Wire.Connection.fresh s.command root s.timeout 0
    return (root, connection)
  match opened with
  | .error e => ⟨.error e, [], []⟩
  | .ok (root, connection) =>
    let started :=
      Wire.Online.turn b (fun t => .start t .null) (Wire.Online.start connection w.disk)
    let hello := connectNote s.command root :: started.notes
    match started.result with
    | .error e => ⟨.error e, hello, started.world.connection.sent⟩
    | .ok _ =>
      let (result, session) :=
        (work (Wire.Online.world b w.env w.cwd)).run.run (Session.start started.world)
      let stopped := Wire.Online.turn b (fun t => .stop t) session.world
      ⟨stopped.result.bind fun _ => result, hello ++ session.log ++ stopped.notes,
        stopped.world.connection.sent⟩

variable (x : Toolkit)

def logText (verbose : Bool) (entries : List LogEntry) : String :=
  String.join ((entries.filter fun e => verbose || !e.isDebug).map fun e => e.toLine ++ "\n")

/-- A result as text, and whether there are bytes for all of it. Where there
are none the text shows lone surrogates as replaced. -/
structure Page where
  text : String
  isEncodable : Bool

def Page.whole (page : Page) : String := page.text ++ "\n"

def Page.bytes? (page : Page) : Option (List UInt8) :=
  if page.isEncodable then some (Text.Utf8.encode page.whole.toList) else none

/-- A result goes to a file or to the output, never to both. The file is opened
before its bytes are known, so one that cannot be encoded leaves it empty. -/
def emit (w : Workplace) (output : Slot Path) (page : Page) : Report × Workplace :=
  match output with
  | .absent =>
    if page.isEncodable then (.page 0 page.whole, w) else (.quiet (.error .unencodable), w)
  | .blank => (.quiet (.error .notObject), w)
  | .given path =>
    match w.disk.write w.cwd path (page.bytes?.getD []) with
    | .ok disk =>
      (if page.isEncodable then .complaint x w.env 0 .success ("Wrote " ++ path.toText)
        else .quiet (.error .unencodable), { w with disk := disk })
    | .error e => (.quiet (.error e), w)

def failed (env : Environment) (e : Failure) (purpose : String) : Report :=
  match e with
  | .unsupported _ => .complaint x env 1 .warning (e.message ++ "; " ++ purpose)
  | e => if e.isService then .complaint x env 1 .error e.message else .quiet (.error e)

/-- Report a visit: a failure, that nothing was found, or the written
result. -/
def conclude {α : Type} (w : Workplace) (place : Place) (purpose nothing : String)
    (v : Visit (Option α)) (render : α → Except Failure Page) : Report × Workplace :=
  let (report, after) := match v.result with
    | .error e => (failed x w.env e purpose, w)
    | .ok none => (.complaint x w.env 0 .info nothing, w)
    | .ok (some a) =>
      match render a with
      | .error e => (.quiet (.error e), w)
      | .ok page => emit x w place.output page
  ({ report.after (logText place.verbose v.log) with sent := v.sent }, after)

/-- JSON text is in ASCII throughout. -/
def renderTypes (place : Place) (outline : Bool) (g : TypeGraph) : Except Failure Page :=
  if place.json then .ok ⟨Json.Writer.toPage g.toJson, true⟩
  else if outline then .ok ⟨Diagram.outline g "  ", Diagram.outlineIsEncodable g⟩
  else (Diagram.ofGraph g).map fun body =>
    ⟨Diagram.document .classes body place.fenced, Diagram.graphIsEncodable g⟩

def renderCalls (place : Place) (tree : CallTree) : Except Failure Page :=
  .ok (if place.json then ⟨Json.Writer.toPage tree.toJson, true⟩
    else ⟨Diagram.document .sequence (Diagram.ofCalls tree) place.fenced,
      Diagram.callsAreEncodable tree⟩)

/-- Settings that are refused are the user's to mend; other failures break
the run off. -/
def refusedSettings (env : Environment) (e : Failure) : Report :=
  if e.isRefusal then .complaint x env 1 .error e.message else .quiet (.error e)

def checkFile (w : Workplace) (place : Place) : Except Report Path :=
  match place.file with
  | none => .error (.quiet (.error .notObject))
  | some path =>
    match w.disk.isFile w.cwd path with
    | .error e => .error (.quiet (.error e))
    | .ok false => .error (.complaint x w.env 1 .error ("No such file: " ++ path.toText))
    | .ok true => .ok path

/-- Lines and columns are written from one on; the line is looked at first. -/
def checkPosition (env : Environment) (place : Place) : Except Report Position :=
  let outside : Report := .complaint x env 1 .error "Line and column are 1-based"
  match place.line, place.column with
  | none, _ => .error (.quiet (.error .wrongKind))
  | some line, none => .error (if line < 1 then outside else .quiet (.error .wrongKind))
  | some line, some column =>
    if line < 1 ∨ column < 1 then .error outside else .ok ⟨line - 1, column - 1⟩

/-- A place that was checked, and the settings to look at it with. -/
structure Prepared where
  settings : Settings
  file : Path
  position : Position

def prepare (w : Workplace) (place : Place) (method : Option String) (maxDepth : Slot Int) :
    Except Report Prepared × Workplace :=
  let spot := do return (← checkFile x w place, ← checkPosition x w.env place)
  match spot with
  | .error report => (.error report, w)
  | .ok (file, position) =>
    let (settings, shared) := settingsFor w.env w.settings (overridesOf place method maxDepth)
    ((settings.mapError (refusedSettings x w.env)).map fun s => ⟨s, file, position⟩,
      { w with settings := shared })

def modeOf : Slot Mode → Except Failure Mode
  | .absent => .ok .both
  | .blank => .error (.refused (.unknownMode "[]"))
  | .given m => .ok m

/-- The bound of the type searches is the caller's, as it depends on what the
server can be expected to know. -/
def runTypes (b : Wire.Behaviour) (bound : Nat) (w : Workplace) (place : Place)
    (mode : Slot Mode) (fromRoot outline : Bool) (method : Option String) : Report × Workplace :=
  match prepare x w place method .absent with
  | (.error report, after) => (report, after)
  | (.ok p, after) =>
    let v := visit b after p.settings fun world => do
      let mode ← Client.attempt (modeOf mode)
      Hierarchy.buildAt world Identity.byName p.settings bound p.file.toText p.position mode
        fromRoot
    conclude x after place "cannot build a type hierarchy." "No type hierarchy available" v
      (renderTypes place outline)

def runCalls (b : Wire.Behaviour) (w : Workplace) (place : Place) (maxDepth : Slot Int) :
    Report × Workplace :=
  match prepare x w place none maxDepth with
  | (.error report, after) => (report, after)
  | (.ok p, after) =>
    let v := visit b after p.settings fun world =>
      CallTrace.traceAt world p.settings.maxDepth p.file.toText p.position
    conclude x after place "cannot trace calls." "No function found at the given position" v
      (renderCalls place)

def helpReport (topic : Option String) : Report :=
  match nonEmpty topic with
  | none => .page 0 (mainGrammar.help commandTexts)
  | some name =>
    match Invocation.ofWords [name, "--help"] with
    | .error halt => .ofHalt halt
    | .ok _ => .quiet (.ok 0)

def envFileName : String := ".env"

/-- The workplace with the file's variables, what was said on the way, and why
the loading was broken off. -/
def loadEnvFile (w : Workplace) : Workplace × String × Option Failure :=
  let (env, notes, broken) := x.load w.env (w.disk.read w.cwd (Path.ofString envFileName))
  ({ w with env := env }, notes, broken)

def runInvocation (b : Wire.Behaviour) (bound : Nat) (w : Workplace) :
    Invocation → Report × Workplace
  | .nothing => (.page 1 (mainGrammar.help commandTexts), w)
  | .version => (.page 0 ("lspgraph v" ++ programVersion ++ "\n"), w)
  | .help topic => (helpReport topic, w)
  | .types place mode fromRoot outline method =>
    runTypes x b bound w place mode fromRoot outline method
  | .calls place maxDepth => runCalls x b w place maxDepth

def runWith (b : Wire.Behaviour) (bound : Nat) (words : List String) (w : Workplace) :
    Report × Workplace :=
  match Invocation.ofWords words with
  | .error halt => (.ofHalt halt, w)
  | .ok invocation =>
    let (loaded, notes, broken) := loadEnvFile x w
    let (report, after) := match broken with
      | some e => (Report.quiet (.error e), loaded)
      | none => runInvocation x b bound loaded invocation
    (report.after notes, after)

def run (b : Wire.Behaviour) (bound : Nat) (words : List String) (w : Workplace) :
    Report × Workplace :=
  runWith .standard b bound words w

end CodeAtlas.Command
