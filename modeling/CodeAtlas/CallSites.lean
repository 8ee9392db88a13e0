import CodeAtlas.Text.Pattern

namespace CodeAtlas

open Text Pattern

structure CallSite where
  name : String
  offset : Nat
  deriving DecidableEq, Repr

namespace CallSite

inductive Form
  | onReceiver
  | alone

def blanks : Pattern Form := many (.one isBlank)

def identifier : Pattern Form := .seq (.one isIdentStart) (many (.one isWord))

def onReceiver : Pattern Form :=
  all [edge, identifier, blanks, literal ".", blanks, .named .onReceiver identifier, blanks,
    literal "("]

def alone : Pattern Form :=
  all [notAfter fun c => c == '.' || isWord c, .named .alone identifier, blanks, literal "("]

def call : Pattern Form := .alt onReceiver alone

def ofPart (text : List Char) (p : Pattern.Part Form) : CallSite :=
  ⟨String.ofList ((text.drop p.start).take (p.stop - p.start)), p.start⟩

/-- A call on a receiver is one match, so the receiver is not a site. -/
def sites (text : List Char) : List CallSite := (call.partsIn text).map (ofPart text)

def keep (skip : Nat → Bool) (kept : List CallSite) (site : CallSite) : List CallSite :=
  if kept.any (fun k => k.name == site.name) || skip site.offset then kept else kept ++ [site]

def extract (text : List Char) (skip : Nat → Bool) : List CallSite :=
  (sites text).foldl (keep skip) []

end CallSite

end CodeAtlas
