import CodeAtlas.Failure

namespace CodeAtlas.Command

inductive ValueKind
  | text
  | integer
  | choice (among : List String)
  deriving DecidableEq

inductive OptionKind
  | help
  | flag
  | value (kind : ValueKind)
  deriving DecidableEq

structure OptionSpec where
  names : List String
  key : String
  kind : OptionKind
  help : String

inductive Need
  | required
  | optional
  | command
  deriving DecidableEq

structure PositionalSpec where
  key : String
  kind : ValueKind
  need : Need
  help : Option String

structure Grammar where
  program : String
  description : Option String
  options : List OptionSpec
  positionals : List PositionalSpec

inductive Value
  | on
  | blank
  | text (s : String)
  | number (n : Int)
  | words (l : List String)
  deriving DecidableEq

abbrev Bindings := List (String × Value)

inductive Stop
  | help
  | misuse (message : String)
  deriving DecidableEq

namespace OptionSpec

def takesValue (o : OptionSpec) : Bool :=
  match o.kind with
  | .value _ => true
  | _ => false

def title (o : OptionSpec) : String := "/".intercalate o.names

end OptionSpec

def misuseOf (title message : String) : Stop := .misuse ("argument " ++ title ++ ": " ++ message)

/-- A word that looks like an option: the option, if it is known, whether it
was named by a single letter, and the value written into the same word. -/
structure Spelled where
  option : Option OptionSpec
  short : Bool
  explicit : Option String

inductive Mark
  | plain
  | dashes
  | option (spelled : Spelled)

def Mark.isOption : Mark → Bool
  | .option _ => true
  | _ => false

def splitEquals (word : List Char) : Option (List Char × List Char) :=
  match word.dropWhile (· ≠ '=') with
  | [] => none
  | _ :: rest => some (word.takeWhile (· ≠ '='), rest)

def isShort (name : List Char) : Bool := name.length == 2

def isDigitRun (s : List Char) : Bool := !s.isEmpty && s.all fun c => (Text.digitValue? c).isSome

def isNegativeNumber (word : List Char) : Bool :=
  let body := if word.getLast? = some '\n' then word.dropLast else word
  match body with
  | '-' :: rest =>
    isDigitRun rest ||
      (match rest.dropWhile fun c => (Text.digitValue? c).isSome with
        | '.' :: fraction => isDigitRun fraction
        | _ => false)
  | _ => false

namespace Grammar

variable (g : Grammar)

def names : List (String × OptionSpec) := g.options.flatMap fun o => o.names.map fun n => (n, o)

def find? (name : String) : Option OptionSpec := g.names.lookup name

/-- The readings of a shortened long option, or of a short one with its value
attached. -/
def expansions (word : List Char) : List (String × Spelled) :=
  match word with
  | '-' :: '-' :: _ =>
    let (stem, explicit) := match splitEquals word with
      | some (before, after) => (before, some (String.ofList after))
      | none => (word, none)
    g.names.filterMap fun (name, o) =>
      if stem.isPrefixOf name.toList then some (name, ⟨some o, isShort name.toList, explicit⟩)
      else none
  | _ =>
    g.names.filterMap fun (name, o) =>
      if name.toList = word.take 2 then
        some (name, ⟨some o, true, some (String.ofList (word.drop 2))⟩)
      else if word.isPrefixOf name.toList then some (name, ⟨some o, isShort name.toList, none⟩)
      else none

def markOption (word : List Char) : Except Stop Mark :=
  let attached := (splitEquals word).bind fun (before, after) =>
    (g.find? (String.ofList before)).map fun o =>
      (⟨some o, isShort before, some (String.ofList after)⟩ : Spelled)
  match g.find? (String.ofList word), attached with
  | some o, _ => .ok (.option ⟨some o, isShort word, none⟩)
  | none, some spelled => .ok (.option spelled)
  | none, none =>
    match g.expansions word with
    | [(_, spelled)] => .ok (.option spelled)
    | [] =>
      let isPlain := isNegativeNumber word || word.contains ' '
      .ok (if isPlain then .plain else .option ⟨none, false, none⟩)
    | several =>
      .error (.misuse ("ambiguous option: " ++ String.ofList word ++ " could match "
        ++ ", ".intercalate (several.map Prod.fst)))

def mark (word : String) : Except Stop Mark :=
  match word.toList with
  | '-' :: c :: rest => g.markOption ('-' :: c :: rest)
  | _ => .ok .plain

def marks : List String → Except Stop (List (String × Mark))
  | [] => .ok []
  | word :: rest =>
    if word = "--" then .ok ((word, .dashes) :: rest.map fun w => (w, .plain))
    else do
      let m ← g.mark word
      return (word, m) :: (← marks rest)

end Grammar

def dashes : String := "--"

def readValue (title : String) (kind : ValueKind) (word : String) : Except Stop Value :=
  match kind with
  | .text => .ok (.text word)
  | .integer =>
    match Text.Numeral.readInteger word.toList with
    | .ok n => .ok (.number n)
    | .error _ => .error (misuseOf title ("invalid int value: " ++ Text.Quoted.quoted word))
  | .choice among =>
    if word ∈ among then .ok (.text word)
    else .error (misuseOf title ("invalid choice: " ++ Text.Quoted.quoted word ++ " (choose from "
      ++ ", ".intercalate (among.map Text.Quoted.quoted) ++ ")"))

/-- The words left to read with their marks, the positional arguments not
bound yet, what was bound, and the words nothing could be done with. -/
structure Progress where
  rest : List (String × Mark)
  awaited : List PositionalSpec
  bound : Bindings
  extras : List String

namespace Progress

def bind (p : Progress) (key : String) (value : Value) : Progress :=
  { p with bound := (key, value) :: p.bound }

/-- Words that a positional argument takes from the head, if it can: one
plain word, with a double dash on either side of it allowed. A later double
dash is a plain word that stands for nothing. -/
def taken? (need : Need) (words : List (String × Mark)) :
    Option (List String × List (String × Mark)) :=
  let skip (l : List (String × Mark)) : List (String × Mark) :=
    match l with
    | (_, .dashes) :: rest => rest
    | l => l
  let led : Bool := (skip words).length < words.length
  match need, skip words with
  | .command, (w, .plain) :: rest =>
    some ((if led then [dashes] else []) ++ w :: rest.map Prod.fst, [])
  | .command, _ => none
  | _, (w, .plain) :: rest => some (if w = dashes && !led then [] else [w], skip rest)
  | .optional, rest => some ([], rest)
  | .required, _ => none

/-- As many of the positional arguments as can be matched one after the
other. -/
def matched : List PositionalSpec → List (String × Mark) →
    List (PositionalSpec × List String) × List (String × Mark)
  | [], words => ([], words)
  | s :: specs, words =>
    match taken? s.need words with
    | none => ([], words)
    | some (found, rest) =>
      let (more, left) := matched specs rest
      ((s, found) :: more, left)

def bindPositional (p : Progress) (entry : PositionalSpec × List String) : Except Stop Progress :=
  let (s, found) := entry
  match s.need, found with
  | .command, name :: rest => do
    let _ ← readValue s.key s.kind name
    return p.bind s.key (.words (name :: rest))
  | _, [] => .ok (if s.need = .required then p.bind s.key .blank else p)
  | _, word :: _ => do return p.bind s.key (← readValue s.key s.kind word)

def takePositionals (p : Progress) : Except Stop Progress :=
  let (found, left) := matched p.awaited p.rest
  found.foldlM bindPositional { p with rest := left, awaited := p.awaited.drop found.length }

/-- Short flags written together, down to the last one and the value it may
have. -/
def bundle (g : Grammar) (short : Bool) (o : OptionSpec) (explicit : List Char) :
    Except Stop (List OptionSpec × OptionSpec × Option String) :=
  if o.takesValue then .ok ([], o, some (String.ofList explicit))
  else
    let ignored := misuseOf o.title
      ("ignored explicit argument " ++ Text.Quoted.quoted (String.ofList explicit))
    match explicit with
    | [] => .error ignored
    | c :: more =>
      match if short then g.find? (String.ofList ['-', c]) else none with
      | none => .error ignored
      | some next =>
        if more.isEmpty then .ok ([o], next, none)
        else (bundle g true next more).map fun (flags, last, value) => (o :: flags, last, value)

def useFlag (p : Progress) (o : OptionSpec) : Except Stop Progress :=
  match o.kind with
  | .help => .error .help
  | _ => .ok (p.bind o.key .on)

def useOption (g : Grammar) (s : Spelled) (o : OptionSpec) (p : Progress) :
    Except Stop Progress := do
  let (flags, last, value) ← match s.explicit with
    | some explicit => bundle g s.short o explicit.toList
    | none => .ok ([], o, none)
  match last.kind, value, p.rest with
  | .value kind, some word, _ => do
    let p ← flags.foldlM useFlag p
    return p.bind last.key (← if word = dashes then .ok .blank else readValue last.title kind word)
  | .value kind, none, (word, .plain) :: rest => do
    let p ← flags.foldlM useFlag p
    return { p with rest := rest }.bind last.key (← readValue last.title kind word)
  | .value _, none, _ => .error (misuseOf last.title "expected one argument")
  | _, _, _ => do useFlag (← flags.foldlM useFlag p) last

def takeOption (g : Grammar) (p : Progress) : Except Stop Progress :=
  match p.rest with
  | (word, .option s) :: rest =>
    let after := { p with rest := rest }
    match s.option with
    | some o => useOption g s o after
    | none => .ok { after with extras := after.extras ++ [word] }
  | _ => .ok p

/-- Words before the next option that no positional argument took. -/
def passExtras (p : Progress) : Progress :=
  let before := p.rest.takeWhile fun w => !w.2.isOption
  { p with rest := p.rest.drop before.length, extras := p.extras ++ before.map Prod.fst }

/-- Positional arguments and options by turns, until no option is left. Each
turn takes at least one word, so the count of words bounds the turns. -/
def turns (g : Grammar) : Nat → Progress → Except Stop Progress
  | 0, p => .ok p
  | bound + 1, p =>
    if !(p.rest.any fun w => w.2.isOption) then .ok p
    else
      match p.rest with
      | (_, .option _) :: _ => do turns g bound (← takeOption g p)
      | _ => do
        let q ← takePositionals p
        if q.rest.length < p.rest.length then turns g bound q
        else turns g bound (← takeOption g q.passExtras)

end Progress

def Grammar.missing (g : Grammar) (bound : Bindings) : List String :=
  (g.positionals.filter fun s => s.need = .required && (bound.lookup s.key).isNone).map
    PositionalSpec.key

def Grammar.read (g : Grammar) (words : List String) : Except Stop (Bindings × List String) := do
  let marked ← g.marks words
  let turned ← Progress.turns g (marked.length + 1) ⟨marked, g.positionals, [], []⟩
  let p ← turned.takePositionals
  let missing := g.missing p.bound
  if !missing.isEmpty then
    throw (.misuse ("the following arguments are required: " ++ ", ".intercalate missing))
  return (p.bound, p.extras ++ p.rest.map Prod.fst)

end CodeAtlas.Command
