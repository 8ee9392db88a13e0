import CodeAtlas.Failure

namespace CodeAtlas

structure Position where
  line : Int
  character : Int
  deriving DecidableEq, Repr

namespace Position

instance : LE Position :=
  ⟨fun p q => p.line < q.line ∨ (p.line = q.line ∧ p.character ≤ q.character)⟩

instance (p q : Position) : Decidable (p ≤ q) :=
  inferInstanceAs (Decidable (p.line < q.line ∨ (p.line = q.line ∧ p.character ≤ q.character)))

def origin : Position := ⟨0, 0⟩

def sorted (positions : List Position) : List Position :=
  positions.mergeSort fun p q => decide (p ≤ q)

def coordinate (key : String) (j : Json) : Except Failure Int := do
  match ← j.field key with
  | some v => v.toInteger
  | none => return 0

def ofJson (j : Json) : Except Failure Position := do
  return ⟨← coordinate "line" j, ← coordinate "character" j⟩

def toJson (p : Position) : Json := .object [("line", .int p.line), ("character", .int p.character)]

def toText (p : Position) : Except Failure String := do
  return (← writtenInteger (p.line + 1)) ++ ":" ++ (← writtenInteger (p.character + 1))

end Position

structure Range where
  start : Position
  stop : Position
  deriving DecidableEq, Repr

namespace Range

def origin : Range := ⟨.origin, .origin⟩

def point (p : Position) : Range := ⟨p, p⟩

def contains (r other : Range) : Bool :=
  decide (r.start ≤ other.start) && decide (other.stop ≤ r.stop)

def containsPosition (r : Range) (p : Position) : Bool := r.contains (point p)

/-- Line and character differences of the ends, to compare sizes by. -/
def span (r : Range) : Position :=
  ⟨r.stop.line - r.start.line, r.stop.character - r.start.character⟩

def endOf (key : String) (j : Json) : Except Failure Position := do
  match ← j.field key with
  | some v => if v.truthy then Position.ofJson v else return .origin
  | none => return .origin

def ofJson (j : Json) : Except Failure Range :=
  if j.truthy then do return ⟨← endOf "start" j, ← endOf "end" j⟩ else .ok origin

def toJson (r : Range) : Json := .object [("start", r.start.toJson), ("end", r.stop.toJson)]

end Range

/-- A place that the language server answers with. The address is kept as
it was sent. -/
structure Location where
  uri : Json
  range : Range
  deriving Repr

namespace Location

/-- Links carry a target, and prefer its selection; other objects without
an address are no place. -/
def ofJson? (j : Json) : Except Failure (Option Location) :=
  match j with
  | .object fields =>
    let part (key : String) : Json := (fields.lookup key).getD .null
    match fields.lookup "targetUri", fields.lookup "uri" with
    | some uri, _ => do
      return some ⟨uri, ← Range.ofJson ((part "targetSelectionRange").orElse (part "targetRange"))⟩
    | none, some uri => do return some ⟨uri, ← Range.ofJson (part "range")⟩
    | none, none => .ok none
  | _ => .ok none

def toJson (l : Location) : Json := .object [("uri", l.uri), ("range", l.range.toJson)]

end Location

end CodeAtlas
