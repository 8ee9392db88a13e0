import CodeAtlas.CallTree
import CodeAtlas.TypeGraph

namespace CodeAtlas.Diagram

open Text (isWord)

def sanitize (name : String) : String := name.map fun c => if isWord c then c else '-'

def joinLines (lines : List String) : String := "\n".intercalate lines

/-- The focus keeps its exact name; any other label must be a text. -/
def shownLabel (focus l : Label) : Except Failure String :=
  if l.key = focus.key then .ok l.display
  else match l with
    | .text name => .ok (sanitize name.shown)
    | _ => .error .wrongKind

def classLine (focus l : Label) : Except Failure String :=
  (shownLabel focus l).map fun name => "class " ++ name

def arrowLine (focus : Label) (e : TypeEdge) : Except Failure String := do
  let parent ← shownLabel focus e.parent
  let child ← shownLabel focus e.child
  return parent ++ " <|-- " ++ child

def ofGraph (g : TypeGraph) : Except Failure String := do
  let classes ← g.labels.mapM (classLine g.focus)
  let arrows ← g.edges.mapM (arrowLine g.focus)
  return joinLines (classes ++ arrows)

/-- In every label but the focus a lone surrogate is replaced, as it is in no word. -/
def graphIsEncodable (g : TypeGraph) : Bool :=
  (g.labels ++ g.edges.flatMap fun e => [e.parent, e.child]).all fun l =>
    decide (l.key ≠ g.focus.key) || l.isEncodable

def distinct {α : Type} [BEq α] (entries : List α) : List α :=
  entries.foldl (fun kept a => if kept.contains a then kept else kept ++ [a]) []

/-- Two calls are the same when their arrows read the same. -/
def arrowKey (call : Name × Name) : Name := call.1 ++ .ofString "->" ++ call.2

def distinctCalls (calls : List (Name × Name)) : List (Name × Name) :=
  calls.foldl
    (fun kept c => if kept.any fun k => arrowKey k == arrowKey c then kept else kept ++ [c]) []

def callLabel : String := "call"

def participantLine (name : Name) : String := "participant " ++ name.shown

def messageLine (call : Name × Name) : String :=
  call.1.shown ++ "->>" ++ call.2.shown ++ ": " ++ callLabel

/-- A participant for each name, then a message for each distinct call. -/
def ofCalls (tree : CallTree) : String :=
  joinLines
    ((distinct tree.names).map participantLine ++ (distinctCalls tree.calls).map messageLine)

def callsAreEncodable (tree : CallTree) : Bool := tree.names.all Name.isEncodable

structure OutlineLine where
  level : Nat
  name : Label

def related (g : TypeGraph) (name : Label) : List Label := g.supertypesOf name ++ g.subtypesOf name

/-- The fuel bounds the nesting; each level takes a name not listed before. -/
def outlineFrom (g : TypeGraph) : Nat → Nat → List OutlineLine → Label → List OutlineLine
  | 0, _, lines, _ => lines
  | fuel + 1, level, lines, name =>
    if lines.any fun l => l.name.key = name.key then lines
    else (related g name).foldl (fun lines other => outlineFrom g fuel (level + 1) lines other)
      (lines ++ [⟨level, name⟩])

/-- Every name below the root is an end of some edge. -/
def outlineLines (g : TypeGraph) : List OutlineLine :=
  outlineFrom g (2 * g.edges.length + 2) 0 [] g.root

def outlineLine (indent : String) (l : OutlineLine) : String :=
  String.join (List.replicate l.level indent) ++ "- " ++ l.name.display

def outline (g : TypeGraph) (indent : String) : String :=
  joinLines ((outlineLines g).map (outlineLine indent))

def outlineIsEncodable (g : TypeGraph) : Bool := (outlineLines g).all fun l => l.name.isEncodable

inductive Kind
  | classes
  | sequence
  deriving DecidableEq

def Kind.ofJson : Json → Except Failure Kind
  | .text "class" => .ok .classes
  | .text "sequence" => .ok .sequence
  | .list _ | .object _ => .error .wrongKind
  | j => .error (.refused (.unknownDiagram j.shown))

def Kind.header : Kind → String
  | .classes => "classDiagram"
  | .sequence => "sequenceDiagram"

def document (kind : Kind) (body : String) (fenced : Bool) : String :=
  let plain := if body = "" then kind.header else kind.header ++ "\n" ++ body
  if fenced then "```mermaid\n" ++ plain ++ "\n```" else plain

end CodeAtlas.Diagram
