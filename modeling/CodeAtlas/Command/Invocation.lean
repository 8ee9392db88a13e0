import CodeAtlas.Command.Usage
import CodeAtlas.Hierarchy

namespace CodeAtlas.Command

def helpOption : OptionSpec := ⟨["-h", "--help"], "help", .help, "show this help message and exit"⟩

def commandTexts : List (String × String) :=
  [("types", "Class diagram of the type at a position"),
    ("calls", "Sequence diagram of calls from the function at a position"),
    ("version", "Show version"), ("help", "Show help for a command")]

def mainGrammar : Grammar :=
  ⟨"lspgraph", some "lspgraph - Type hierarchy and call diagrams from a language server",
    [helpOption], [⟨"COMMAND", .choice (commandTexts.map Prod.fst), .command, none⟩]⟩

def placeArguments : List PositionalSpec :=
  [⟨"file", .text, .required, some "Source file"⟩,
    ⟨"line", .integer, .required, some "Line number (1-based)"⟩,
    ⟨"column", .integer, .required, some "Column number (1-based)"⟩]

def commonOptions : List OptionSpec :=
  [helpOption,
    ⟨["--server"], "server", .value .text, "Language server command line (default: clangd)"⟩,
    ⟨["--workspace"], "workspace", .value .text, "Workspace root passed to the server"⟩,
    ⟨["--fenced"], "fenced", .flag, "Wrap the diagram in a ```mermaid block"⟩,
    ⟨["--json"], "json", .flag, "JSON output"⟩,
    ⟨["--output", "-o"], "output", .value .text, "Write the result to a file"⟩,
    ⟨["--verbose", "-v"], "verbose", .flag, "Verbose logging"⟩]

def typesGrammar : Grammar :=
  ⟨"lspgraph types", none,
    commonOptions ++
      [⟨["--mode"], "mode", .value (.choice (Mode.all.map Mode.name)),
          "Directions to expand (default: both)"⟩,
        ⟨["--from-root"], "from_root", .flag, "Start from the first-parent root"⟩,
        ⟨["--outline"], "outline", .flag, "Indented text outline instead of a diagram"⟩,
        ⟨["--hierarchy-method"], "hierarchy_method", .value (.choice Lookup.methods),
          "Request used for the initial type lookup"⟩],
    placeArguments⟩

def callsGrammar : Grammar :=
  ⟨"lspgraph calls", none,
    commonOptions ++
      [⟨["--max-depth"], "max_depth", .value .integer, "Maximum call depth (default: 5)"⟩],
    placeArguments⟩

def versionGrammar : Grammar := ⟨"lspgraph version", none, [helpOption], []⟩

def helpGrammar : Grammar :=
  ⟨"lspgraph help", none, [helpOption],
    [⟨"subcommand", .text, .optional, some "The command to get help for"⟩]⟩

def grammarOf : String → Grammar
  | "types" => typesGrammar
  | "calls" => callsGrammar
  | "version" => versionGrammar
  | _ => helpGrammar

/-- An argument that can be left out. Blank is one that was given without a
word. -/
inductive Slot (α : Type)
  | absent
  | blank
  | given (a : α)

def Slot.get? {α : Type} : Slot α → Option α
  | .given a => some a
  | _ => none

/-- What the words ask for on either diagram command. A blank server or
workspace counts as none, and so do the parts of the place itself. -/
structure Place where
  file : Option Path
  line : Option Int
  column : Option Int
  server : Option String
  workspace : Option Path
  fenced : Bool
  json : Bool
  output : Slot Path
  verbose : Bool

inductive Invocation
  | nothing
  | version
  | help (topic : Option String)
  | types (place : Place) (mode : Slot Mode) (fromRoot : Bool) (outline : Bool)
    (method : Option String)
  | calls (place : Place) (maxDepth : Slot Int)

namespace Bindings

def text (b : Bindings) (key : String) : Slot String :=
  match b.lookup key with
  | some (.text s) => .given s
  | some .blank => .blank
  | _ => .absent

def number (b : Bindings) (key : String) : Slot Int :=
  match b.lookup key with
  | some (.number n) => .given n
  | some .blank => .blank
  | _ => .absent

def path (b : Bindings) (key : String) : Slot Path :=
  match text b key with
  | .given s => .given (Path.ofString s)
  | .blank => .blank
  | .absent => .absent

def has (b : Bindings) (key : String) : Bool := (b.lookup key).isSome

def place (b : Bindings) : Place where
  file := (path b "file").get?
  line := (number b "line").get?
  column := (number b "column").get?
  server := (text b "server").get?
  workspace := (path b "workspace").get?
  fenced := has b "fenced"
  json := has b "json"
  output := path b "output"
  verbose := has b "verbose"

def mode (b : Bindings) : Slot Mode :=
  match text b "mode" with
  | .given s => .given ((Mode.all.find? fun m => s = m.name).getD .both)
  | .blank => .blank
  | .absent => .absent

end Bindings

def Invocation.ofBindings (name : String) (b : Bindings) : Invocation :=
  match name with
  | "types" =>
    .types (Bindings.place b) (Bindings.mode b) (Bindings.has b "from_root")
      (Bindings.has b "outline") (Bindings.text b "hierarchy_method").get?
  | "calls" => .calls (Bindings.place b) (Bindings.number b "max_depth")
  | "version" => .version
  | _ => .help (Bindings.text b "subcommand").get?

/-- Why there is nothing to run: help was asked for, or the words make no
sense. -/
inductive Halt
  | help (page : String)
  | misuse (text : String)
  deriving DecidableEq

def haltOf (g : Grammar) (commands : List (String × String)) : Stop → Halt
  | .help => .help (g.help commands)
  | .misuse message => .misuse (g.errorText message)

def unrecognized (words : List String) : Halt :=
  .misuse (mainGrammar.errorText ("unrecognized arguments: " ++ " ".intercalate words))

/-- Words that no grammar has a use for are an error of the whole line, found
only when all else is in order. -/
def Invocation.ofWords (words : List String) : Except Halt Invocation := do
  let (bound, extras) ← (mainGrammar.read words).mapError (haltOf mainGrammar commandTexts)
  match bound.lookup "COMMAND" with
  | some (.words (name :: rest)) => do
    let g := grammarOf name
    let (inner, more) ← (g.read rest).mapError (haltOf g [])
    let unused := extras ++ more
    if unused.isEmpty then return Invocation.ofBindings name inner else throw (unrecognized unused)
  | _ => if extras.isEmpty then return .nothing else throw (unrecognized extras)

end CodeAtlas.Command
