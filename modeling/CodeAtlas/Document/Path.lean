import CodeAtlas.Failure
import CodeAtlas.Text.Utf8

namespace CodeAtlas

inductive Anchor
  | relative
  | root
  | doubleRoot
  deriving DecidableEq, Repr

structure Path where
  anchor : Anchor
  segments : List String
  deriving DecidableEq, Repr

/-- Variables and their values; the first entry of a name counts. -/
abbrev Environment := List (String × String)

namespace Path

def splitSlashes : List Char → List (List Char)
  | [] => [[]]
  | c :: rest =>
    match splitSlashes rest with
    | [] => [[c]]
    | piece :: more => if c = '/' then [] :: piece :: more else (c :: piece) :: more

def segmentsOf (text : List Char) : List String :=
  ((splitSlashes text).filter fun s => !s.isEmpty && s != ['.']).map String.ofList

def anchorOf : List Char → Anchor
  | '/' :: '/' :: '/' :: _ => .root
  | '/' :: '/' :: _ => .doubleRoot
  | '/' :: _ => .root
  | _ => .relative

def ofChars (text : List Char) : Path := ⟨anchorOf text, segmentsOf text⟩

def ofString (text : String) : Path := ofChars text.toList

def anchorText : Anchor → String
  | .relative => ""
  | .root => "/"
  | .doubleRoot => "//"

def toText (p : Path) : String :=
  let text := anchorText p.anchor ++ "/".intercalate p.segments
  if text = "" then "." else text

def name (p : Path) : String := p.segments.getLast?.getD ""

/-- A name before and from its last dot, when there is text on both sides. -/
def splitName (name : List Char) : List Char × List Char :=
  let tail := (name.reverse.takeWhile (· ≠ '.')).reverse
  let head := name.take (name.length - tail.length - 1)
  if name.contains '.' && !tail.isEmpty && !head.isEmpty then (head, '.' :: tail) else (name, [])

def stem (p : Path) : String := String.ofList (splitName p.name.toList).1

def suffix (p : Path) : String := String.ofList (splitName p.name.toList).2

def userHome? (user : String) : Option String := if user = "root" then some "/root" else none

def dropTrailingSlashes (text : List Char) : List Char := (text.reverse.dropWhile (· = '/')).reverse

def homeOf (env : Environment) (segment : String) : Except Failure Path :=
  let user := String.ofList (segment.toList.drop 1)
  let home := if user = "" then some ((env.lookup "HOME").getD "/root") else userHome? user
  match home with
  | none => .error .noHome
  | some text =>
    let kept := dropTrailingSlashes text.toList
    if kept.head? = some '~' then .error .noHome
    else .ok (ofChars (if kept.isEmpty then ['/'] else kept))

def expandHome (env : Environment) (p : Path) : Except Failure Path :=
  match p.anchor, p.segments with
  | .relative, s :: rest =>
    if s.toList.head? = some '~' then
      (homeOf env s).map fun home => { home with segments := home.segments ++ rest }
    else .ok p
  | _, _ => .ok p

/-- Double dots take away the segment before them, and nothing at the root. -/
def collapse (segments : List String) : List String :=
  segments.foldl (fun done s => if s = ".." then done.dropLast else done ++ [s]) []

def hasNul (p : Path) : Bool := p.segments.any fun s => s.toList.contains '\x00'

def resolve (cwd : List String) (p : Path) : Except Failure Path :=
  if p.hasNul then .error (.refused .embeddedNul)
  else
    match p.anchor with
    | .relative => .ok ⟨.root, collapse (cwd ++ p.segments)⟩
    | _ => .ok ⟨.root, collapse p.segments⟩

def normalise (env : Environment) (cwd : List String) (p : Path) : Except Failure Path :=
  (p.expandHome env).bind (resolve cwd)

end Path

end CodeAtlas
