import CodeAtlas.Name

namespace CodeAtlas

inductive CallTree
  | node (name : Name) (children : List CallTree)

namespace CallTree

instance : Inhabited CallTree := ⟨.node "" []⟩

def name : CallTree → Name
  | .node name _ => name

def children : CallTree → List CallTree
  | .node _ children => children

def leaf (name : Name) : CallTree := .node name []

def isLeaf (t : CallTree) : Bool := t.children.isEmpty

mutual

def depth : CallTree → Nat
  | .node _ children => depthBelow children

def depthBelow : List CallTree → Nat
  | [] => 0
  | t :: rest => max (t.depth + 1) (depthBelow rest)

end

mutual

def names : CallTree → List Name
  | .node name children => name :: namesBelow children

def namesBelow : List CallTree → List Name
  | [] => []
  | t :: rest => t.names ++ namesBelow rest

end

mutual

/-- Caller and callee of each call in the order of a depth-first walk. -/
def calls : CallTree → List (Name × Name)
  | .node name children => callsBelow name children

def callsBelow (caller : Name) : List CallTree → List (Name × Name)
  | [] => []
  | t :: rest => (caller, t.name) :: t.calls ++ callsBelow caller rest

end

mutual

def toJson : CallTree → Json
  | .node name children => .object [("name", name.toJson), ("children", .list (jsonBelow children))]

def jsonBelow : List CallTree → List Json
  | [] => []
  | t :: rest => t.toJson :: jsonBelow rest

end

end CallTree

end CodeAtlas
