import CodeAtlas.Client
import CodeAtlas.TypeGraph

namespace CodeAtlas

inductive Mode
  | ancestors
  | descendants
  | both
  deriving DecidableEq, Repr

namespace Mode

def all : List Mode := [.ancestors, .descendants, .both]

def name : Mode → String
  | .ancestors => "ancestors"
  | .descendants => "descendants"
  | .both => "both"

def ofJson (j : Json) : Except Failure Mode :=
  let named (m : Mode) : Bool := match j with
    | .text s => s == m.name
    | _ => false
  match all.find? named with
  | some m => .ok m
  | none => .error (.refused (.unknownMode j.shown))

def goesUp : Mode → Bool
  | .ancestors | .both => true
  | .descendants => false

def goesDown : Mode → Bool
  | .descendants | .both => true
  | .ancestors => false

end Mode

namespace Hierarchy

open Client

/-- A graph in the making and what was expanded. -/
structure Growth where
  graph : TypeGraph
  visited : List Label.Key

def Growth.meet (g : Growth) (label : Label) (node : TypeNode) (edge : TypeEdge) : Growth :=
  { g with graph := (g.graph.addNode label node).addEdge edge }

variable {σ : Type} (w : World σ) (identity : Identity)

def expand (mode : Mode) : Nat → TypeNode → Growth → Client σ Growth
  | 0, _, _ => throw .exhausted
  | bound + 1, node, growth => do
    let label ← attempt (identity node)
    if label.key ∈ growth.visited then
      return growth
    let started : Growth := { growth with visited := label.key :: growth.visited }
    let above ←
      if mode.goesUp then do
        let found ← supertypes w node
        found.foldlM (fun growth relative => do
          let other ← attempt (identity relative)
          expand mode bound relative (growth.meet other relative ⟨other, label⟩)) started
      else pure started
    if mode.goesDown then do
      let found ← subtypes w node
      found.foldlM (fun growth relative => do
        let other ← attempt (identity relative)
        expand mode bound relative (growth.meet other relative ⟨label, other⟩)) above
    else pure above

/-- Relatives that a mode does not ask for are left out of its root. -/
def rootFor (mode : Mode) (node : TypeNode) : TypeNode :=
  match mode with
  | .ancestors => node.withoutChildren
  | .descendants => node.withoutParents
  | .both => node

def builtNote (label : Label) (mode : Mode) (g : TypeGraph) : String :=
  "Type graph for " ++ label.display ++ " (" ++ mode.name ++ "): " ++ toString g.nodes.length
    ++ " node(s), " ++ toString g.edges.length ++ " edge(s)"

def build (bound : Nat) (node : TypeNode) (mode : Mode) (focus : Option Label) :
    Client σ TypeGraph := do
  let root := rootFor mode node
  let label ← attempt (identity root)
  let start := (TypeGraph.empty label (focus.getD label)).addNode label root
  let grown ← expand w identity mode bound root ⟨start, []⟩
  note .debug .types (builtNote label mode grown.graph)
  return grown.graph

def cycleNote (label : Label) : String :=
  "Supertype cycle at " ++ label.display ++ ", stopping root search"

def parentsOf (node : TypeNode) : Client σ (List TypeNode) :=
  match node.parents with
  | some parents => pure parents
  | none => supertypes w node

/-- Follow first parents until there is none, or one that was seen before. -/
def climb : Nat → List Label.Key → TypeNode → Client σ TypeNode
  | 0, _, _ => throw .exhausted
  | bound + 1, seen, node => do
    match ← parentsOf w node with
    | [] => return node
    | parent :: _ => do
      let label ← attempt (identity parent)
      if label.key ∈ seen then do
        note .debug .types (cycleNote label)
        return node
      else climb bound (label.key :: seen) parent

def climbToRoot (bound : Nat) (node : TypeNode) : Client σ TypeNode := do
  let label ← attempt (identity node)
  climb w identity bound [label.key] node

def missingNote (file : String) (p : Position) : Except Failure String :=
  p.toText.map fun place => "No type hierarchy available at " ++ file ++ ":" ++ place

def buildAt (s : Settings) (bound : Nat) (file : String) (p : Position) (mode : Mode)
    (fromRoot : Bool) : Client σ (Option TypeGraph) := do
  require w [typeCapability]
  let path ← attempt (w.absolute (Path.ofString file))
  let uri := Document.uriOfPath path
  let _ ← ensureOpen w uri
  match ← typeAt w s (.text uri) p with
  | none => do
    note .info .types (← attempt (missingNote file p))
    return none
  | some item => do
    let start ← if fromRoot then climbToRoot w identity bound item else pure item
    let focus ← attempt (identity item)
    return some (← build w identity bound start mode (some focus))

end Hierarchy

end CodeAtlas
