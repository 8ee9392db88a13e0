import CodeAtlas.Proofs.CallTrace.Runs

namespace CodeAtlas.CallTrace

open Client

structure Line where
  name : Char
  callees : List Char
  number : Nat

namespace Line

def text (l : Line) : List Char := l.name :: l.callees.flatMap fun callee => [' ', callee, '(', ')']

def extent (l : Line) : Range := ⟨⟨l.number, 0⟩, ⟨l.number, l.text.length⟩⟩

def selection (l : Line) : Range := ⟨⟨l.number, 0⟩, ⟨l.number, 1⟩⟩

def symbol (l : Line) : Json := .object
  [("name", .text (String.singleton l.name)), ("kind", .int 12), ("range", l.extent.toJson),
    ("selectionRange", l.selection.toJson)]

def target (l : Line) : CallTarget :=
  ⟨"m." ++ String.singleton l.name, "file:///m", l.extent, l.selection⟩

end Line

/-- What each function calls, from the first line on. -/
abbrev Script := List (Char × List Char)

namespace Script

def lines (script : Script) : List Line := script.zipIdx.map fun f => ⟨f.1.1, f.1.2, f.2⟩

def text (script : Script) : List Char := script.lines.flatMap fun l => l.text ++ ['\n']

def calleeAt (script : Script) (p : Position) : Option Line := do
  let l ← script.lines[p.line.toNat]?
  let callee ← l.callees[(p.character.toNat - 2) / 4]?
  script.lines.find? fun other => other.name == callee

/-- The start of the function that is called at the place asked about. -/
def implementation (script : Script) (params : Json) : Json :=
  match (params.get? "position").map Position.ofJson with
  | some (.ok p) =>
    match script.calleeAt p with
    | some l => (Location.mk (.text "file:///m") (.point l.extent.start)).toJson
    | none => .null
  | _ => .null

def world (script : Script) : World Unit :=
  { answering .null with
    capabilities := fun _ => .object
      [(implementationCapability, .bool true), (outlineCapability, .bool true)]
    request := fun method params _ =>
      ⟨.ok (if method = outlineMethod then .list (script.lines.map Line.symbol)
        else script.implementation params), [], ()⟩
    readFile := fun _ _ => (.ok (script.text.map fun c => c.toNat.toUInt8), ()) }

def root (script : Script) : CallTarget :=
  (script.lines.head?.getD ⟨'?', [], 0⟩).target

/-- A long way and a short one to the same function. -/
def detour : Script :=
  [('r', ['a', 'x']), ('a', ['b']), ('b', ['x']), ('x', ['y']), ('y', ['z']), ('z', [])]

/-- Two ways of one length to the same function. -/
def diamond : Script := [('r', ['a', 'b']), ('a', ['c']), ('b', ['c']), ('c', ['d']), ('d', [])]

end Script

theorem exists_tree {σ α : Type} {x : Client σ (CallTree × List Name)} {s : Session σ}
    {view : CallTree → α} {a : α}
    (h : (outcome x s).1.toOption.map (fun r => view r.1) = some a) :
    ∃ tree seen t, outcome x s = (.ok (tree, seen), t) ∧ view tree = a := by
  obtain ⟨⟨tree, seen⟩, t, hx, hview⟩ := exists_result h
  exact ⟨tree, seen, t, hx, hview⟩

end CodeAtlas.CallTrace
