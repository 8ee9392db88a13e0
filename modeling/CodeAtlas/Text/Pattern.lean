import CodeAtlas.Text.Class

namespace CodeAtlas.Text

inductive Pattern (ν : Type)
  | one (accepts : Char → Bool)
  | between (holds : Option Char → Option Char → Bool)
  | seq (first second : Pattern ν)
  | alt (first second : Pattern ν)
  | again (isLazy : Bool) (least : Nat) (most : Option Nat) (body : Pattern ν)
  | named (name : ν) (body : Pattern ν)

namespace Pattern

variable {ν α : Type}

structure Part (ν : Type) where
  name : ν
  start : Nat
  stop : Nat

/-- A match in the making: the place in the text, and the parts found. -/
structure Scan (ν : Type) where
  offset : Nat
  last : Option Char
  ahead : List Char
  parts : List (Part ν)

namespace Scan

def ofText (text : List Char) : Scan ν := ⟨0, none, text, []⟩

def step (c : Char) (rest : List Char) (s : Scan ν) : Scan ν := ⟨s.offset + 1, c, rest, s.parts⟩

def name (n : ν) (start : Nat) (s : Scan ν) : Scan ν :=
  { s with parts := s.parts ++ [⟨n, start, s.offset⟩] }

end Scan

/-- Repeat a step before going on. Each turn takes at least one character,
so the bound is never met. -/
def repeated (step : (Scan ν → Option α) → Scan ν → Option α) (isLazy : Bool) (least : Nat)
    (most : Option Nat) (next : Scan ν → Option α) : Nat → Nat → Scan ν → Option α
  | 0, _, _ => none
  | bound + 1, done, s =>
    let more (_ : Unit) : Option α :=
      if most.all (done < ·) then step (repeated step isLazy least most next bound (done + 1)) s
      else none
    let leave (_ : Unit) : Option α := if least ≤ done then next s else none
    if isLazy then (leave ()).orElse more else (more ()).orElse leave

/-- Match, and go on with the rest; if that fails, match in the next way. -/
def run : Pattern ν → (Scan ν → Option α) → Scan ν → Option α
  | .one accepts, next, s =>
    match s.ahead with
    | c :: rest => if accepts c then next (s.step c rest) else none
    | [] => none
  | .between holds, next, s => if holds s.last s.ahead.head? then next s else none
  | .seq first second, next, s => first.run (second.run next) s
  | .alt first second, next, s => (first.run next s).orElse fun _ => second.run next s
  | .again isLazy least most body, next, s =>
    repeated body.run isLazy least most next (s.ahead.length + 1) 0 s
  | .named n body, next, s => body.run (fun t => next (t.name n s.offset)) s

def match? (p : Pattern ν) (s : Scan ν) : Option (Scan ν) :=
  p.run (fun t => if s.offset < t.offset then some t else none) s

def partsFrom (p : Pattern ν) : Nat → Scan ν → List (Part ν)
  | 0, _ => []
  | bound + 1, s =>
    match p.match? s with
    | some t => t.parts ++ partsFrom p bound { t with parts := [] }
    | none =>
      match s.ahead with
      | c :: rest => partsFrom p bound (s.step c rest)
      | [] => []

def partsIn (p : Pattern ν) (text : List Char) : List (Part ν) :=
  partsFrom p (text.length + 1) (.ofText text)

def nothing : Pattern ν := .between fun _ _ => true

def all : List (Pattern ν) → Pattern ν
  | [] => nothing
  | [p] => p
  | p :: rest => .seq p (all rest)

def any : List (Pattern ν) → Pattern ν
  | [] => .between fun _ _ => false
  | [p] => p
  | p :: rest => .alt p (any rest)

def literal (text : String) : Pattern ν := all (text.toList.map fun c => .one (· == c))

def charIn (text : String) : Pattern ν := .one text.toList.contains

def many (p : Pattern ν) : Pattern ν := .again false 0 none p

def several (p : Pattern ν) : Pattern ν := .again false 1 none p

def optional (p : Pattern ν) : Pattern ν := .again false 0 (some 1) p

def upTo (most : Nat) (p : Pattern ν) : Pattern ν := .again false 1 (some most) p

def times (n : Nat) (p : Pattern ν) : Pattern ν := .again false n (some n) p

def few (p : Pattern ν) : Pattern ν := .again true 0 none p

def notAfter (refuses : Char → Bool) : Pattern ν := .between fun last _ => !last.any refuses

def isEdge (last next : Option Char) : Bool := last.any isWord != next.any isWord

def edge : Pattern ν := .between isEdge

def noEdge : Pattern ν := .between fun last next => !isEdge last next

end Pattern

end CodeAtlas.Text
