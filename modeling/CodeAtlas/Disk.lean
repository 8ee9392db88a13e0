import CodeAtlas.Document.Path

namespace CodeAtlas

structure Disk where
  files : List (List String × List UInt8)
  folders : List (List String)

namespace Disk

def around (place : List String) : List (List String) :=
  (List.range (place.length + 1)).map fun n => place.take n

def empty (cwd : List String) : Disk := ⟨[], around cwd⟩

def file? (d : Disk) (place : List String) : Option (List UInt8) := d.files.lookup place

def isFolder (d : Disk) (place : List String) : Bool := d.folders.contains place

def isTooLong (name : String) : Bool := 255 < name.utf8ByteSize

def follow (d : Disk) (path : String) (place : List String) :
    List String → Except FileFault (List String)
  | [] => .ok place
  | s :: rest =>
    if d.isFolder place then
      if s = ".." then d.follow path place.dropLast rest
      else if isTooLong s then .error (.nameTooLong path)
      else d.follow path (place ++ [s]) rest
    else if (d.file? place).isSome then .error (.notDirectory path)
    else .error (.missing path)

def longestPath : Nat := 4095

def locate (d : Disk) (cwd : List String) (p : Path) : Except FileFault (List String) :=
  if longestPath < p.toText.utf8ByteSize then .error (.nameTooLong p.toText)
  else d.follow p.toText (if p.anchor = .relative then cwd else []) p.segments

def read (d : Disk) (cwd : List String) (p : Path) : Except Failure (List UInt8) :=
  if p.hasNul then .error (.refused .embeddedNul)
  else
    match d.locate cwd p with
    | .error fault => .error (.file fault)
    | .ok place =>
      match d.file? place with
      | some content => .ok content
      | none =>
        .error (.file (if d.isFolder place then .isDirectory p.toText else .missing p.toText))

/-- Whether a file is there; a name that cannot exist is an error only when
it is too long. -/
def isFile (d : Disk) (cwd : List String) (p : Path) : Except Failure Bool :=
  match d.read cwd p with
  | .ok _ => .ok true
  | .error (.file (.nameTooLong path)) => .error (.file (.nameTooLong path))
  | .error _ => .ok false

def setFile (d : Disk) (place : List String) (content : List UInt8) : Disk :=
  { d with files := (place, content) :: d.files.filter fun f => f.1 ≠ place }

def write (d : Disk) (cwd : List String) (p : Path) (content : List UInt8) : Except Failure Disk :=
  if p.hasNul then .error (.refused .embeddedNul)
  else
    match d.locate cwd p with
    | .error fault => .error (.file fault)
    | .ok place =>
      if d.isFolder place then .error (.file (.isDirectory p.toText))
      else if d.isFolder place.dropLast then .ok (d.setFile place content)
      else if (d.file? place.dropLast).isSome then .error (.file (.notDirectory p.toText))
      else .error (.file (.missing p.toText))

/-- Make a folder inside one that exists, or leave it if it is there. -/
def makeFolder (d : Disk) (path : String) (segments : List String) : Except FileFault Disk :=
  match d.follow path [] segments with
  | .error fault => .error fault
  | .ok place =>
    if d.isFolder place then .ok d
    else if (d.file? place).isSome then .error (.present path)
    else .ok { d with folders := d.folders ++ [place] }

/-- Make the folder that the first segments lead to, with those around it
only if it cannot be made without them. -/
def makeFolders (d : Disk) (path : String) (segments : List String) : Nat → Except FileFault Disk
  | 0 => .ok d
  | n + 1 =>
    match d.makeFolder path (segments.take (n + 1)) with
    | .error (.missing _) =>
      (makeFolders d path segments n).bind fun d => d.makeFolder path (segments.take (n + 1))
    | made => made

def put (d : Disk) (cwd : List String) (p : Path) (content : List UInt8) : Except Failure Disk :=
  if p.hasNul then .error (.refused .embeddedNul)
  else
    let segments := (if p.anchor = .relative then cwd else []) ++ p.segments
    match d.makeFolders p.toText segments (segments.length - 1) with
    | .error fault => .error (.file fault)
    | .ok made => made.write cwd p content

def remove (d : Disk) (cwd : List String) (p : Path) : Except Failure Disk :=
  if p.hasNul then .error (.refused .embeddedNul)
  else
    match d.locate cwd p with
    | .error fault => .error (.file fault)
    | .ok place =>
      if d.isFolder place then .error (.file (.isDirectory p.toText))
      else if (d.file? place).isNone then .error (.file (.missing p.toText))
      else .ok { d with files := d.files.filter fun f => f.1 ≠ place }

end Disk

end CodeAtlas
