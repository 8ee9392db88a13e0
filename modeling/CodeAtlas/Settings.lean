import CodeAtlas.Document.Path
import CodeAtlas.Text.Words

namespace CodeAtlas

/-- A duration as it was given, whole or not. -/
inductive Seconds
  | whole (n : Int)
  | real (x : Binary64)
  deriving DecidableEq, Repr

namespace Seconds

def toText : Seconds → String
  | .whole n => toString n
  | .real x => x.toText

def isSpent : Seconds → Bool
  | .whole n => decide (n ≤ 0)
  | .real x => x.isNonPositive

def microsecond : Binary64 := .ofDecimal false 1 (-6)

/-- Over before any answer can come: less than a microsecond, or no number
at all. -/
def isInstant : Seconds → Bool
  | .whole _ => false
  | .real x => x.isNaN || decide (x.magnitude < microsecond.magnitude)

end Seconds

namespace Lookup

def standardMethod : String := "textDocument/prepareTypeHierarchy"

/-- An extension that answers with parents and children already resolved. -/
def resolvingMethod : String := "textDocument/typeHierarchy"

def methods : List String := [standardMethod, resolvingMethod]

def resolveLevels : Int := 5

def bothDirections : Int := 2

end Lookup

structure Settings where
  command : List String
  workspace : Option Path
  method : String
  resolveLevels : Json
  maxDepth : Int
  timeout : Seconds
  deriving Repr

namespace Settings

def defaultServer : String := "clangd"

def defaultMaxDepth : Int := 5

def defaultTimeout : Seconds := .real (Binary64.ofDecimal false 5 0)

def standard : Settings :=
  ⟨[defaultServer], none, Lookup.standardMethod, .int Lookup.resolveLevels,
    defaultMaxDepth, defaultTimeout⟩

def unknownMethod (given : Json) : Failure :=
  .refused (.unknownMethod given.shown Lookup.methods)

/-- Settings stand only with a command, a known lookup and a depth that is
not negative. -/
def check (s : Settings) : Except Failure Settings :=
  if s.command.isEmpty then .error (.refused .emptyCommand)
  else if s.method ∉ Lookup.methods then .error (unknownMethod (.text s.method))
  else if s.maxDepth < 0 then .error (.refused .negativeDepth)
  else .ok s

def serverVariable : String := "LSPGRAPH_SERVER_COMMAND"

def workspaceVariable : String := "LSPGRAPH_WORKSPACE"

def methodVariable : String := "LSPGRAPH_TYPE_HIERARCHY_METHOD"

def resolveVariable : String := "LSPGRAPH_TYPE_HIERARCHY_RESOLVE"

def depthVariable : String := "LSPGRAPH_MAX_CALL_DEPTH"

def timeoutVariable : String := "LSPGRAPH_SHUTDOWN_TIMEOUT"

def integerText (text : String) : Except Failure Int := (Json.text text).toInteger

def integerIn (env : Environment) (name : String) (standard : Int) : Except Failure Int :=
  match env.lookup name with
  | some text => integerText text
  | none => .ok standard

def timeoutIn (env : Environment) : Except Failure Seconds :=
  match env.lookup timeoutVariable with
  | none => .ok defaultTimeout
  | some text =>
    match Text.Numeral.readReal text.toList with
    | some x => .ok (.real x)
    | none => .error (.refused (.badReal text))

def workspaceIn (env : Environment) : Except Failure (Option Path) :=
  match env.lookup workspaceVariable with
  | none | some "" => .ok none
  | some text => ((Path.ofString text).expandHome env).map some

def ofEnvironment (env : Environment) : Except Failure Settings := do
  let command ← Text.Words.split ((env.lookup serverVariable).getD defaultServer)
  let workspace ← workspaceIn env
  let method := (env.lookup methodVariable).getD Lookup.standardMethod
  let levels ← integerIn env resolveVariable Lookup.resolveLevels
  let depth ← integerIn env depthVariable defaultMaxDepth
  let timeout ← timeoutIn env
  check ⟨command, workspace, method, .int levels, depth, timeout⟩

end Settings

/-- The settings of a whole run, once they are known. -/
abbrev SharedSettings := Option Settings

namespace SharedSettings

/-- Known settings stay as they are; else the environment is read, and what
it gives is kept. A failure leaves them unknown. -/
def get (env : Environment) : SharedSettings → Except Failure Settings × SharedSettings
  | some s => (.ok s, some s)
  | none =>
    match Settings.ofEnvironment env with
    | .ok s => (.ok s, some s)
    | .error e => (.error e, none)

end SharedSettings

end CodeAtlas
