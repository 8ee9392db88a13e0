import CodeAtlas.Document.Offsets
import CodeAtlas.Document.Path
import CodeAtlas.Text.Class
import CodeAtlas.Text.Utf8

namespace CodeAtlas.Command.EnvFile

open Text (isBlank)

def isLineEnd (c : Char) : Bool := c == '\n' || c == '\r'

def isGap (c : Char) : Bool := isBlank c && !isLineEnd c

def dropWord (word : List Char) (s : List Char) : Option (List Char) :=
  if word.isPrefixOf s then some (s.drop word.length) else none

def dropExport (s : List Char) : List Char :=
  match dropWord "export".toList s with
  | some (c :: rest) => if isGap c then rest.dropWhile isGap else s
  | _ => s

def readKey (s : List Char) : Option (Option (List Char) × List Char) :=
  match s with
  | '#' :: _ => some (none, s)
  | '\'' :: rest =>
    let key := rest.takeWhile (· ≠ '\'')
    match rest.dropWhile (· ≠ '\'') with
    | _ :: after => if key.isEmpty then none else some (some key, after)
    | [] => none
  | _ =>
    let inKey (c : Char) : Bool := c != '=' && c != '#' && !isBlank c
    let key := s.takeWhile inKey
    if key.isEmpty then none else some (some key, s.dropWhile inKey)

/-- The text up to the first quote that no backslash takes with it. -/
def untilQuote (quote : Char) : List Char → Option (List Char × List Char)
  | [] => none
  | '\\' :: rest =>
    match rest with
    | [] => none
    | c :: more => (untilQuote quote more).map fun (a, b) => ('\\' :: c :: a, b)
  | c :: rest =>
    if c = quote then some ([], rest) else (untilQuote quote rest).map fun (a, b) => (c :: a, b)

def escapeValue? (quote : Char) (c : Char) : Option Char :=
  if c = '\\' ∨ c = '\'' then some c
  else if quote = '\'' then none
  else match c with
    | '"' => some '"'
    | 'a' => some '\x07'
    | 'b' => some '\x08'
    | 'f' => some '\x0c'
    | 'n' => some '\n'
    | 'r' => some '\r'
    | 't' => some '\t'
    | 'v' => some '\x0b'
    | _ => none

def unescape (quote : Char) : List Char → List Char
  | [] => []
  | '\\' :: c :: rest =>
    match escapeValue? quote c with
    | some d => d :: unescape quote rest
    | none => '\\' :: unescape quote (c :: rest)
  | c :: rest => c :: unescape quote rest

def readQuoted (quote : Char) (s : List Char) : Option (List Char × List Char) :=
  (untilQuote quote s).map fun (text, rest) => (unescape quote text, rest)

def dropComment (pending : List Char) : List Char → List Char
  | [] => pending
  | c :: rest =>
    if isBlank c then dropComment (pending ++ [c]) rest
    else if c = '#' ∧ !pending.isEmpty then []
    else pending ++ c :: dropComment [] rest

def trimEnd (s : List Char) : List Char := (s.reverse.dropWhile isBlank).reverse

/-- The value after an equals sign. A number sign right after it belongs to
the value, one after a blank opens a comment. -/
def readValue (s : List Char) : Except (List Char) (List Char × List Char) :=
  let text := s.dropWhile isGap
  match text with
  | [] => .ok ([], text)
  | c :: rest =>
    if c = '\'' ∨ c = '"' then
      match readQuoted c rest with
      | some found => .ok found
      | none => .error text
    else if isLineEnd c ∨ (c = '#' ∧ text.length < s.length) then .ok ([], text)
    else
      .ok (trimEnd (dropComment [] (text.takeWhile (!isLineEnd ·))), text.dropWhile (!isLineEnd ·))

def skipComment (s : List Char) : List Char :=
  match s.dropWhile isGap with
  | '#' :: rest => rest.dropWhile (!isLineEnd ·)
  | _ => s

def lineEnd? (s : List Char) : Option (List Char) :=
  match s.dropWhile isGap with
  | [] => some []
  | '\r' :: '\n' :: rest => some rest
  | c :: rest => if isLineEnd c then some rest else none

inductive Statement
  | binding (key : String) (value : Option String)
  | empty
  | unreadable

def body (s : List Char) : Except (List Char) (Statement × List Char) :=
  let start := dropExport s
  match readKey start with
  | none => .error start
  | some (key, rest) =>
    let rest := rest.dropWhile isGap
    let valued : Except (List Char) (Option (List Char) × List Char) := match rest with
      | '=' :: after => (readValue after).map fun (value, left) => (some value, left)
      | _ => .ok (none, rest)
    match valued with
    | .error left => .error left
    | .ok (value, left) =>
      let left := skipComment left
      match lineEnd? left with
      | none => .error left
      | some after =>
        match key with
        | some k => .ok (.binding (String.ofList k) (value.map String.ofList), after)
        | none => .ok (.empty, after)

def skipLine (s : List Char) : List Char :=
  match s.dropWhile (!isLineEnd ·) with
  | '\r' :: '\n' :: rest => rest
  | _ :: rest => rest
  | [] => []

def statement (s : List Char) : Statement × List Char :=
  match s.dropWhile isBlank with
  | [] => (.empty, [])
  | text =>
    match body text with
    | .ok found => found
    | .error left => (.unreadable, skipLine left)

/-- Statements with the lines they start on. Each takes at least one
character. -/
def statements : Nat → Nat → List Char → List (Nat × Statement)
  | 0, _, _ => []
  | _, _, [] => []
  | bound + 1, line, s =>
    let (found, rest) := statement s
    let passed := (s.take (s.length - rest.length)).count '\n'
    (line, found) :: statements bound (line + passed) rest

def parse (text : List Char) : List (Nat × Statement) := statements (text.length + 1) 1 text

inductive Piece
  | plain (c : Char)
  | reference (name : String) (default : Option String)

def reference? (s : List Char) : Option (Piece × List Char) :=
  let close := '\x7d'
  let name := s.takeWhile fun c => c != close && c != ':'
  match s.dropWhile fun c => c != close && c != ':' with
  | ':' :: '-' :: rest =>
    match rest.dropWhile (· ≠ close) with
    | _ :: after =>
      let fallback := String.ofList (rest.takeWhile (· ≠ close))
      some (.reference (String.ofList name) (some fallback), after)
    | [] => none
  | c :: after => if c = close then some (.reference (String.ofList name) none, after) else none
  | [] => none

def pieces : Nat → List Char → List Piece
  | 0, _ => []
  | _, [] => []
  | bound + 1, c :: rest =>
    match c, rest with
    | '$', '\x7b' :: inner =>
      match reference? inner with
      | some (piece, after) => piece :: pieces bound after
      | none => .plain c :: pieces bound rest
    | _, _ => .plain c :: pieces bound rest

/-- Keys in the order of their first binding, with their latest values. -/
abbrev Bound := List (String × Option String)

/-- The environment goes before earlier bindings; a key without a value
counts as empty, and only an unknown name takes the default. -/
def Piece.resolve (env : Environment) (bound : Bound) : Piece → String
  | .plain c => String.singleton c
  | .reference name default =>
    match env.lookup name, bound.lookup name with
    | some value, _ => value
    | none, some value => value.getD ""
    | none, none => default.getD ""

def interpolate (env : Environment) (bound : Bound) (value : String) : String :=
  String.join ((pieces (value.length + 1) value.toList).map (Piece.resolve env bound))

def set (key : String) (value : Option String) : Bound → Bound
  | [] => [(key, value)]
  | (k, v) :: rest => if k = key then (k, value) :: rest else (k, v) :: set key value rest

/-- Bindings in order; values may refer to the environment and to earlier
bindings, and of a key bound twice the later value stands. -/
def bindings (env : Environment) (found : List (Nat × Statement)) : Bound :=
  found.foldl (fun bound s =>
    match s.2 with
    | .binding key value => set key (value.map (interpolate env bound)) bound
    | _ => bound) []

/-- No variable holds a NUL, and a name is not empty and has no equals
sign. -/
def define (env : Environment) (key value : String) : Except Failure Environment :=
  if key.toList.contains '\x00' || value.toList.contains '\x00' then
    .error (.refused .embeddedNul)
  else if key.toList.contains '=' then .error (.refused .illegalName)
  else if key = "" then .error (.file (.other "[Errno 22] Invalid argument"))
  else .ok ((key, value) :: env.filter fun e => e.1 ≠ key)

/-- Set what is not set yet, up to the first binding that cannot be. -/
def setAll (env : Environment) : Bound → Environment × Option Failure
  | [] => (env, none)
  | (_, none) :: rest => setAll env rest
  | (key, some value) :: rest =>
    if (env.lookup key).isSome then setAll env rest
    else
      match define env key value with
      | .ok env => setAll env rest
      | .error cause => (env, some cause)

def load (env : Environment) (found : List (Nat × Statement)) : Environment × Option Failure :=
  setAll env (bindings env found)

def unreadableLines (found : List (Nat × Statement)) : List Nat :=
  found.filterMap fun s => match s.2 with
    | .unreadable => some s.1
    | _ => none

def disablingVariable : String := "PYTHON_DOTENV_DISABLED"

def disablingValues : List String := ["1", "true", "t", "yes", "y"]

def isDisabled (env : Environment) : Bool :=
  match env.lookup disablingVariable with
  | none => false
  | some value => disablingValues.contains (value.map fun c => if c = 'ſ' then 's' else c.toLower)

def unreadableNote (line : Nat) : String :=
  "python-dotenv could not parse statement starting at line " ++ toString line ++ "\n"

/-- A mark of the byte order at the head of a text does not count. -/
def withoutMark : List Char → List Char
  | '\uFEFF' :: rest => rest
  | text => text

def loadFrom (env : Environment) (content : Except Failure (List UInt8)) :
    Environment × String × Option Failure :=
  if isDisabled env then (env, "", none)
  else
    match content with
    | .error _ => (env, "", none)
    | .ok bytes =>
      match Text.Utf8.decode? bytes with
      | none => (env, "", some .badEncoding)
      | some text =>
        let found := parse (Document.unified (withoutMark text))
        let notes := String.join ((unreadableLines found).map unreadableNote)
        let (env, broken) := load env found
        (env, notes, broken)

end CodeAtlas.Command.EnvFile
