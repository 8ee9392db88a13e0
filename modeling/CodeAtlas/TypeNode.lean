import CodeAtlas.Position

namespace CodeAtlas

def unknownName : String := "<unknown>"

structure TypeNode where
  name : Json
  kind : Int
  uri : Json
  range : Range
  selection : Range
  detail : Json
  parents : Option (List TypeNode)
  children : Option (List TypeNode)
  raw : List (String × Json)

namespace TypeNode

def classKind : Int := 5

def named (name : String) : TypeNode :=
  ⟨.text name, classKind, .text "", .origin, .origin, .null, none, none, []⟩

mutual

def ofJson : Json → Except Failure TypeNode
  | .object fields => do
    let part (key : String) : Json := (fields.lookup key).getD .null
    let kind ← match fields.lookup "kind" with
      | some v => v.toInteger
      | none => .ok classKind
    let range ← Range.ofJson (part "range")
    let selection ← Range.ofJson ((part "selectionRange").orElse (part "range"))
    let parents ← relatives "parents" fields
    let children ← relatives "children" fields
    return {
      name := (part "name").orElse (.text unknownName)
      kind := kind
      uri := (fields.lookup "uri").getD (.text "")
      range := range
      selection := selection
      detail := part "detail"
      parents := parents
      children := children
      raw := fields }
  | _ => .error .notObject

/-- The nodes under a key; absent and null mean that none were sent. -/
def relatives (key : String) : List (String × Json) → Except Failure (Option (List TypeNode))
  | [] => .ok none
  | (k, v) :: rest => if key = k then sent v else relatives key rest

/-- A text or an object is walked by character or key, and none of these is
a node. -/
def sent : Json → Except Failure (Option (List TypeNode))
  | .null => .ok none
  | .list items => (each items).map some
  | .text s => if s = "" then .ok (some []) else .error .notObject
  | .unpaired _ => .error .notObject
  | .object fields => if fields.isEmpty then .ok (some []) else .error .notObject
  | _ => .error .wrongKind

def each : List Json → Except Failure (List TypeNode)
  | [] => .ok []
  | j :: rest => do
    let node ← ofJson j
    return node :: (← each rest)

end

def toJson (n : TypeNode) : Json :=
  if n.raw.isEmpty then
    .object ([("name", n.name), ("kind", .int n.kind), ("uri", n.uri), ("range", n.range.toJson),
      ("selectionRange", n.selection.toJson)]
    ++ (if n.detail.truthy then [("detail", n.detail)] else []))
  else .object n.raw

def withoutChildren (n : TypeNode) : TypeNode := { n with children := none }

def withoutParents (n : TypeNode) : TypeNode := { n with parents := none }

/-- The end of the chain of first parents. -/
def findRoot : TypeNode → TypeNode
  | ⟨_, _, _, _, _, _, some (p :: _), _, _⟩ => findRoot p
  | n => n

end TypeNode

end CodeAtlas
