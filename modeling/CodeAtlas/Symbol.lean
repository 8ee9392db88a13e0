import CodeAtlas.Name
import CodeAtlas.TypeNode

namespace CodeAtlas

structure Symbol where
  name : Json
  kind : Int
  range : Range
  selection : Range
  children : List Symbol
  containerName : Json

namespace Symbol

def callableKinds : List Int := [12, 6, 9]

def containerKinds : List Int := [5, 23, 3, 11]

def isCallable (s : Symbol) : Bool := callableKinds.contains s.kind

def isContainer (s : Symbol) : Bool := containerKinds.contains s.kind

mutual

/-- An entry with a location is flat and names its container; any other may
hold further entries. -/
def ofJson : Json → Except Failure Symbol
  | .object fields => do
    let part (key : String) : Json := (fields.lookup key).getD .null
    let name := (part "name").orElse (.text unknownName)
    let readKind : Except Failure Int := match fields.lookup "kind" with
      | some v => v.toInteger
      | none => .ok 0
    match fields.lookup "location" with
    | some location =>
      let range ← if location.truthy then
          (location.field "range").bind fun r => Range.ofJson (r.getD .null)
        else .ok .origin
      return ⟨name, ← readKind, range, range, [], (part "containerName").orElse .null⟩
    | none =>
      let kind ← readKind
      let range ← Range.ofJson (part "range")
      let selection ← Range.ofJson ((part "selectionRange").orElse (part "range"))
      return ⟨name, kind, range, selection, ← members fields, .null⟩
  | .text _ | .unpaired _ | .list _ => .error .notObject
  | _ => .error .wrongKind

def members : List (String × Json) → Except Failure (List Symbol)
  | [] => .ok []
  | (k, v) :: rest => if "children" = k then sent v else members rest

def sent : Json → Except Failure (List Symbol)
  | .list items => each items
  | v => if !v.truthy then .ok []
    else match v with
      | .text _ | .unpaired _ | .object _ => .error .notObject
      | _ => .error .wrongKind

def each : List Json → Except Failure (List Symbol)
  | [] => .ok []
  | j :: rest => do
    let symbol ← ofJson j
    return symbol :: (← each rest)

end

mutual

/-- A symbol and all below it, each with its ancestors from the outermost
inward, parents before children. -/
def walkOne (ancestors : List Symbol) : Symbol → List (Symbol × List Symbol)
  | ⟨name, kind, range, selection, children, containerName⟩ =>
    let s : Symbol := ⟨name, kind, range, selection, children, containerName⟩
    (s, ancestors) :: walkAll (ancestors ++ [s]) children

def walkAll (ancestors : List Symbol) : List Symbol → List (Symbol × List Symbol)
  | [] => []
  | s :: rest => walkOne ancestors s ++ walkAll ancestors rest

end

def walk (symbols : List Symbol) : List (Symbol × List Symbol) := walkAll [] symbols

def better (best : Option (Symbol × List Symbol)) (target : Range) (entry : Symbol × List Symbol) :
    Option (Symbol × List Symbol) :=
  if !entry.1.isCallable || !entry.1.range.contains target then best
  else
    match best with
    | none => some entry
    | some b => if entry.1.range.span ≤ b.1.range.span then some entry else some b

/-- The smallest callable around a target, with its ancestors; of several
equally small ones the last. -/
def enclosing? (symbols : List Symbol) (target : Range) : Option (Symbol × List Symbol) :=
  (walk symbols).foldl (fun best entry => better best target entry) none

def qualifiedBy (s : Symbol) (owner : Name) : Name := owner ++ .ofString "." ++ .ofJson s.name

/-- Named after the nearest container, else after the container that a flat
entry names, else after the file. The file's name is asked for only then. -/
def qualifiedName (s : Symbol) (ancestors : List Symbol) (fileStem : Except Failure String) :
    Except Failure Name :=
  match ancestors.reverse.find? isContainer with
  | some a => .ok (s.qualifiedBy (.ofJson a.name))
  | none => if s.containerName.truthy then .ok (s.qualifiedBy (.ofJson s.containerName))
    else fileStem.map fun stem => s.qualifiedBy (.ofString stem)

end Symbol

end CodeAtlas
