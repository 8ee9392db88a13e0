import CodeAtlas.Name
import CodeAtlas.TypeNode

namespace CodeAtlas

/-- What a node is known by: any single value. -/
inductive Label
  | null
  | bool (b : Bool)
  | int (n : Int)
  | real (x : Binary64)
  | text (name : Name)
  deriving DecidableEq

namespace Label

def ofJson : Json → Except Failure Label
  | .null => .ok .null
  | .bool b => .ok (.bool b)
  | .int n => .ok (.int n)
  | .real x => .ok (.real x)
  | .text s => .ok (.text s)
  | .unpaired points => .ok (.text ⟨points⟩)
  | _ => .error .wrongKind

def toJson : Label → Json
  | .null => .null
  | .bool b => .bool b
  | .int n => .int n
  | .real x => .real x
  | .text name => name.toJson

def display (l : Label) : String := l.toJson.display

def isEncodable : Label → Bool
  | .text name => name.isEncodable
  | _ => true

/-- What labels are compared by. -/
inductive Key
  | null
  | whole (n : Int)
  | real (x : Binary64)
  | text (name : Name)
  deriving DecidableEq

/-- Numbers are equal by value, and truth values count as 0 and 1. -/
def key : Label → Key
  | .null => .null
  | .bool b => .whole (if b then 1 else 0)
  | .int n => .whole n
  | .real x =>
    match x.integer? with
    | some n => .whole n
    | none => .real x
  | .text name => .text name

end Label

/-- How a node is told apart from others. -/
abbrev Identity := TypeNode → Except Failure Label

namespace Identity

def nameOf (n : TypeNode) : Json := n.name.orElse (.text unknownName)

def byName : Identity := fun n => Label.ofJson (nameOf n)

def byDetail : Identity := fun n => Label.ofJson (n.detail.orElse n.name)

def byUri : Identity := fun n => .ok (.text (.ofJson n.uri ++ .ofString "#" ++ .ofJson n.name))

end Identity

/-- The parent is the more general type. -/
structure TypeEdge where
  parent : Label
  child : Label
  deriving DecidableEq

namespace TypeEdge

def reverse (e : TypeEdge) : TypeEdge := ⟨e.child, e.parent⟩

def key (e : TypeEdge) : Label.Key × Label.Key := (e.parent.key, e.child.key)

end TypeEdge

structure TypeGraph where
  root : Label
  focus : Label
  nodes : List (Label × TypeNode)
  edges : List TypeEdge

namespace TypeGraph

def empty (root focus : Label) : TypeGraph := ⟨root, focus, [], []⟩

def labels (g : TypeGraph) : List Label := g.nodes.map Prod.fst

def keys (g : TypeGraph) : List Label.Key := g.labels.map Label.key

def edgeKeys (g : TypeGraph) : List (Label.Key × Label.Key) := g.edges.map TypeEdge.key

def addNode (g : TypeGraph) (label : Label) (node : TypeNode) : TypeGraph :=
  if label.key ∈ g.keys then g else { g with nodes := g.nodes ++ [(label, node)] }

def admits (g : TypeGraph) (e : TypeEdge) : Bool :=
  !(decide (e.key ∈ g.edgeKeys) || decide (e.reverse.key ∈ g.edgeKeys))

def addEdge (g : TypeGraph) (e : TypeEdge) : TypeGraph :=
  if g.admits e then { g with edges := g.edges ++ [e] } else g

def supertypesOf (g : TypeGraph) (label : Label) : List Label :=
  (g.edges.filter fun e => e.child.key = label.key).map TypeEdge.parent

def subtypesOf (g : TypeGraph) (label : Label) : List Label :=
  (g.edges.filter fun e => e.parent.key = label.key).map TypeEdge.child

def nodeJson (entry : Label × TypeNode) : Json :=
  .object [("name", entry.1.toJson), ("detail", entry.2.detail), ("kind", .int entry.2.kind),
    ("uri", entry.2.uri)]

def edgeJson (e : TypeEdge) : Json :=
  .object [("parent", e.parent.toJson), ("child", e.child.toJson)]

def toJson (g : TypeGraph) : Json :=
  .object [("root", g.root.toJson), ("focus", g.focus.toJson),
    ("nodes", .list (g.nodes.map nodeJson)),
    ("edges", .list (g.edges.map edgeJson))]

end TypeGraph

end CodeAtlas
