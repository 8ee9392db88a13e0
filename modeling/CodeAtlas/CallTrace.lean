import CodeAtlas.CallSites
import CodeAtlas.CallTree
import CodeAtlas.Client

namespace CodeAtlas

/-- A function whose text can be searched for calls. -/
structure CallTarget where
  name : Name
  uri : String
  range : Range
  selection : Range
  deriving DecidableEq, Repr

namespace CallTrace

open Client Document

variable {σ : Type} (w : World σ)

def unopenedNote (uri : Json) (e : Failure) : String :=
  "Cannot open " ++ uri.display ++ ": " ++ e.message

/-- A document that cannot be read makes its location unusable and is no
error; everything else is. -/
def openAt (l : Location) : Client σ (Option OpenDocument) :=
  tryCatch (do
      let uri ← attempt (addressText l.uri)
      return some (← openDocument w uri))
    fun e => do
      if e.isFile || e.isRefusal then
        note .debug .calls (unopenedNote l.uri e)
        return none
      else throw e

def targetFor (l : Location) : Client σ (Option CallTarget) := do
  match ← openAt w l with
  | none => return none
  | some document =>
    match Symbol.enclosing? document.symbols l.range with
    | none => return none
    | some (symbol, ancestors) => do
      let name ← attempt (symbol.qualifiedName ancestors (stemOfUri document.uri))
      return some ⟨name, document.uri, symbol.range, symbol.selection⟩

/-- The first location inside a function wins. -/
def firstTarget : List Location → Client σ (Option CallTarget)
  | [] => return none
  | l :: rest => do
    match ← targetFor w l with
    | some target => return some target
    | none => firstTarget rest

def unresolvedNote (owner : Name) (reason : String) (site : CallSite) : String :=
  "Skipping call site in " ++ owner.shown ++ ": " ++ reason ++ " for " ++ Text.Quoted.quoted site.name

def resolve (target : CallTarget) (p : Position) (site : CallSite) :
    Client σ (Option CallTarget) := do
  let locations ← implementations w (.text target.uri) p
  if locations.isEmpty then do
    note .debug .calls (unresolvedNote target.name "no implementation" site)
    return none
  else
    match ← firstTarget w locations with
    | some callee => return some callee
    | none => do
      note .debug .calls (unresolvedNote target.name "no enclosing function" site)
      return none

def placeOf (target : CallTarget) (body : List Char) (offset : Nat) : Position :=
  positionOf body offset target.range.start

/-- The sites in a function's text, its own declared name left out. -/
def sitesOf (target : CallTarget) (body : List Char) : List CallSite :=
  CallSite.extract body fun offset => target.selection.containsPosition (placeOf target body offset)

/-- Trace with the given number of levels left; the second result is the
visited names. -/
def trace : Nat → CallTarget → List Name → Client σ (CallTree × List Name)
  | 0, target, visited => return (.leaf target.name, visited)
  | levels + 1, target, visited =>
    if target.name ∈ visited then return (.leaf target.name, visited)
    else do
      let body := (← readText w target.uri (some target.range)).toList
      let (children, seen) ←
        (sitesOf target body).foldlM (fun (done : List CallTree × List Name) site => do
        match ← resolve w target (placeOf target body site.offset) site with
        | none => return done
        | some callee => do
          let (child, seen) ← trace levels callee done.2
          return (done.1 ++ [child], seen)) ([], visited ++ [target.name])
      return (.node target.name children, seen)

/-- Levels left at a depth below a limit. -/
def levelsLeft (maxDepth depth : Int) : Nat := (maxDepth - depth).toNat

def missingNote (file : String) (p : Position) : Except Failure String :=
  p.toText.map fun place => "No function found at " ++ file ++ ":" ++ place

def traceAt (maxDepth : Int) (file : String) (p : Position) : Client σ (Option CallTree) := do
  require w [implementationCapability, outlineCapability]
  let path ← attempt (w.absolute (Path.ofString file))
  match ← targetFor w ⟨.text (uriOfPath path), .point p⟩ with
  | none => do
    note .info .calls (← attempt (missingNote file p))
    return none
  | some root => do
    let (tree, _) ← trace w (levelsLeft maxDepth 0) root []
    return some tree

end CallTrace

end CodeAtlas
