import CodeAtlas.Document.Offsets
import CodeAtlas.Document.Uri
import CodeAtlas.Log
import CodeAtlas.Settings
import CodeAtlas.Symbol

namespace CodeAtlas

structure Turn (σ α : Type) where
  result : Except Failure α
  notes : List LogEntry
  world : σ

/-- The server, the disk and the working directory as a client meets them.
Every call may change the state. -/
structure World (σ : Type) where
  isRunning : σ → Bool
  capabilities : σ → Json
  request : String → Json → σ → Turn σ Json
  notify : String → Json → σ → Turn σ Unit
  readFile : Path → σ → Except Failure (List UInt8) × σ
  absolute : Path → Except Failure Path

structure Sent where
  method : String
  params : Json

structure Session (σ : Type) where
  world : σ
  texts : List (String × String)
  traffic : List Sent
  log : List LogEntry

def Session.start {σ : Type} (world : σ) : Session σ := ⟨world, [], [], []⟩

/-- A computation that keeps the session also when it fails. -/
abbrev Client (σ α : Type) := ExceptT Failure (StateM (Session σ)) α

structure OpenDocument where
  uri : String
  text : String
  symbols : List Symbol

namespace Client

def typeCapability : String := "typeHierarchyProvider"

def implementationCapability : String := "implementationProvider"

def outlineCapability : String := "documentSymbolProvider"

def supertypesMethod : String := "typeHierarchy/supertypes"

def subtypesMethod : String := "typeHierarchy/subtypes"

def implementationMethod : String := "textDocument/implementation"

def outlineMethod : String := "textDocument/documentSymbol"

def openMethod : String := "textDocument/didOpen"

variable {σ : Type}

def attempt {α : Type} : Except Failure α → Client σ α
  | .ok a => pure a
  | .error e => throw e

def note (level : Level) (speaker : Speaker) (message : String) : Client σ Unit :=
  modify fun s => { s with log := s.log ++ [⟨level, speaker, message⟩] }

def record (method : String) (params : Json) : Client σ Unit :=
  modify fun s => { s with traffic := s.traffic ++ [⟨method, params⟩] }

/-- Take over the world that an exchange left, and what was logged in it. -/
def settle {α : Type} (turn : Turn σ α) : Client σ α := do
  modify fun s => { s with world := turn.world, log := s.log ++ turn.notes }
  attempt turn.result

variable (w : World σ)

def connected : Client σ Unit := do
  if !w.isRunning (← get).world then throw (.unavailable .notConnected)

def supports (capability : String) : Client σ Bool := do
  connected w
  let value ← attempt ((w.capabilities (← get).world).field capability)
  return (value.getD .null).truthy

/-- Every capability is there, or the failure names the first that is not. -/
def require : List String → Client σ Unit
  | [] => pure ()
  | capability :: rest => do
    if !(← supports w capability) then throw (.unsupported capability)
    require rest

def exchange (method : String) (params : Json) : Client σ Json := do
  connected w
  record method params
  settle (w.request method params (← get).world)

def emptyReplyNote (method : String) (e : Failure) : String :=
  method ++ " returned an error, treating as empty: " ++ e.message

def query (method : String) (params : Json) : Client σ Json :=
  tryCatch (exchange w method params) fun e => do
    match e with
    | .rejected .. =>
      note .warning .client (emptyReplyNote method e)
      return .null
    | _ => throw e

/-- A reply as a list: nothing for null, and one entry for a lone value. -/
def entries : Json → List Json
  | .null => []
  | .list items => items
  | j => [j]

def objects (reply : Json) : List Json := (entries reply).filter Json.isObject

def placeParams (uri : Json) (p : Position) : List (String × Json) :=
  [("textDocument", .object [("uri", uri)]), ("position", p.toJson)]

def lookupParams (s : Settings) (uri : Json) (p : Position) : Json :=
  .object (placeParams uri p ++
    if s.method = Lookup.resolvingMethod then
      [("resolve", s.resolveLevels), ("direction", .int Lookup.bothDirections)]
    else [])

def typeAt (s : Settings) (uri : Json) (p : Position) : Client σ (Option TypeNode) := do
  require w [typeCapability]
  let reply ← query w s.method (lookupParams s uri p)
  match objects reply with
  | [] => return none
  | item :: _ => return some (← attempt (TypeNode.ofJson item))

def relatedNote (method : String) (node : TypeNode) (count : Nat) : String :=
  method ++ " " ++ node.name.display ++ ": " ++ toString count ++ " result(s)"

def related (method : String) (node : TypeNode) : Client σ (List TypeNode) := do
  let reply ← query w method (.object [("item", node.toJson)])
  let nodes ← attempt ((objects reply).mapM TypeNode.ofJson)
  note .debug .client (relatedNote method node nodes.length)
  return nodes

def supertypes (node : TypeNode) : Client σ (List TypeNode) := related w supertypesMethod node

def subtypes (node : TypeNode) : Client σ (List TypeNode) := related w subtypesMethod node

def implementations (uri : Json) (p : Position) : Client σ (List Location) := do
  require w [implementationCapability]
  let reply ← query w implementationMethod (.object (placeParams uri p))
  let found ← attempt ((entries reply).mapM Location.ofJson?)
  return found.filterMap id

def outline (uri : Json) : Client σ (List Symbol) := do
  require w [outlineCapability]
  let reply ← query w outlineMethod (.object [("textDocument", .object [("uri", uri)])])
  attempt ((objects reply).mapM Symbol.ofJson)

def text (uri : String) : Client σ String := do
  match (← get).texts.lookup uri with
  | some known => return known
  | none => do
    let path ← attempt (Document.pathOfUri uri)
    let (content, world) := w.readFile path (← get).world
    modify fun s => { s with world := world }
    let bytes ← attempt content
    return String.ofList (Document.unified (Text.Utf8.decodeLossy bytes))

def readText (uri : String) (range : Option Range) : Client σ String := do
  let whole ← text w uri
  return String.ofList (← attempt (Document.slice whole.toList range))

def openParams (uri language text : String) : Json :=
  .object [("textDocument", .object [("uri", .text uri), ("languageId", .text language),
    ("version", .int 1), ("text", .text text)])]

/-- Announce a document the first time its address is used. It counts as
announced once the server has taken the message. -/
def ensureOpen (uri : String) : Client σ String := do
  match (← get).texts.lookup uri with
  | some known => return known
  | none => do
    let content ← text w uri
    connected w
    let path ← attempt (Document.pathOfUri uri)
    let params := openParams uri (Document.languageOf path) content
    record openMethod params
    settle (w.notify openMethod params (← get).world)
    modify fun s => { s with texts := s.texts ++ [(uri, content)] }
    return content

def openDocument (uri : String) : Client σ OpenDocument := do
  let content ← ensureOpen w uri
  let symbols ← outline w (.text uri)
  return ⟨uri, content, symbols⟩

end Client

end CodeAtlas
