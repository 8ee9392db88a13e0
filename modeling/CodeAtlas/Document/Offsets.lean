import CodeAtlas.Position

namespace CodeAtlas.Document

def breaks (n : Nat) : List Char → List (Nat × Nat)
  | [] => []
  | '\r' :: '\n' :: rest => (n, n + 2) :: breaks (n + 2) rest
  | c :: rest =>
    if c = '\n' ∨ c = '\r' then (n, n + 1) :: breaks (n + 1) rest else breaks (n + 1) rest

def lineStarts (text : List Char) : List Nat := 0 :: (breaks 0 text).map Prod.snd

def lineEnds (text : List Char) : List Nat := (breaks 0 text).map Prod.fst ++ [text.length]

/-- An index into a list of the given length, from the end when negative. -/
def index? (length : Nat) (i : Int) : Option Nat :=
  if 0 ≤ i then (if i < length then some i.toNat else none)
  else if 0 ≤ i + length then some (i + length).toNat else none

/-- Positions past the end of a line or of the text are moved back to it. -/
def offsetOf (text : List Char) (p : Position) : Except Failure Int :=
  let starts := lineStarts text
  if (starts.length : Int) ≤ p.line then .ok text.length
  else
    match index? starts.length p.line with
    | none => .error .noSuchLine
    | some i =>
      let start : Int := starts.getD i 0
      let stop : Int := (lineEnds text).getD i 0
      .ok (min (start + p.character) stop)

def bound (length : Nat) (i : Int) : Nat :=
  if 0 ≤ i then min i.toNat length else (i + length).toNat

def between (text : List Char) (start stop : Int) : List Char :=
  let a := bound text.length start
  let b := bound text.length stop
  (text.take b).drop a

def slice (text : List Char) : Option Range → Except Failure (List Char)
  | none => .ok text
  | some r => do
    let start ← offsetOf text r.start
    let stop ← offsetOf text r.stop
    return between text start stop

/-- The place of an offset in a text that starts at `origin` in its
document. -/
def positionOf (text : List Char) (offset : Int) (origin : Position) : Position :=
  let head := text.take (bound text.length offset)
  let found := breaks 0 head
  match found.getLast? with
  | none => ⟨origin.line, origin.character + head.length⟩
  | some last => ⟨origin.line + found.length, (head.length : Int) - last.2⟩

/-- Every line break becomes a line feed. -/
def unified : List Char → List Char
  | [] => []
  | '\r' :: '\n' :: rest => '\n' :: unified rest
  | c :: rest => (if c = '\r' then '\n' else c) :: unified rest

end CodeAtlas.Document
