import CodeAtlas.Command.Grammar

namespace CodeAtlas.Command

def columnLimit : Nat := 24

def ValueKind.placeholder (kind : ValueKind) (key : String) : String :=
  match kind with
  | .choice among => "\x7b" ++ ",".intercalate among ++ "\x7d"
  | _ => key.toUpper

namespace OptionSpec

def placeholder? (o : OptionSpec) : Option String :=
  match o.kind with
  | .value kind => some (kind.placeholder o.key)
  | _ => none

def spelled (o : OptionSpec) (name : String) : String :=
  match o.placeholder? with
  | some p => name ++ " " ++ p
  | none => name

def usage (o : OptionSpec) : String := "[" ++ o.spelled (o.names.headD "") ++ "]"

def heading (o : OptionSpec) : String := ", ".intercalate (o.names.map o.spelled)

end OptionSpec

def PositionalSpec.usage (s : PositionalSpec) : String :=
  match s.need with
  | .required => s.key
  | .optional => "[" ++ s.key ++ "]"
  | .command => s.key ++ " ..."

/-- A line of a help page: how far it is moved in, what it is about, and the
text on it. -/
structure HelpEntry where
  indent : Nat
  heading : String
  text : Option String

def spaces (n : Nat) : String := String.ofList (List.replicate n ' ')

def padTo (n : Nat) (s : String) : String := s ++ spaces (n - s.length)

namespace HelpEntry

def render (column : Nat) (e : HelpEntry) : String :=
  let start := spaces e.indent ++ e.heading
  match e.text with
  | none => start ++ "\n"
  | some text =>
    if e.indent + e.heading.length + 2 ≤ column then padTo column start ++ text ++ "\n"
    else start ++ "\n" ++ spaces column ++ text ++ "\n"

/-- The column after the widest heading, as if all were moved in alike. -/
def column (entries : List HelpEntry) : Nat :=
  min columnLimit ((entries.map fun e => e.heading.length).foldl max 0 + 4)

def block (title : String) (column : Nat) (entries : List HelpEntry) : String :=
  if entries.isEmpty then ""
  else "\n" ++ title ++ ":\n" ++ String.join (entries.map (render column))

end HelpEntry

namespace Grammar

variable (g : Grammar)

def usage : String :=
  "usage: " ++ " ".intercalate
    (g.program :: g.options.map OptionSpec.usage ++ g.positionals.map PositionalSpec.usage)
    ++ "\n"

/-- A help page; the entries of subcommands stand below the positional
argument that takes one. -/
def help (commands : List (String × String)) : String :=
  let entryOf (s : PositionalSpec) : List HelpEntry :=
    ⟨2, s.key, s.help⟩ ::
      if s.need = .command then commands.map fun c => ⟨4, c.1, some c.2⟩ else []
  let arguments := g.positionals.flatMap entryOf
  let options := g.options.map fun o => (⟨2, o.heading, some o.help⟩ : HelpEntry)
  let column := HelpEntry.column (arguments ++ options)
  let description := match g.description with
    | some text => "\n" ++ text ++ "\n"
    | none => ""
  g.usage ++ description ++ HelpEntry.block "positional arguments" column arguments
    ++ HelpEntry.block "options" column options

def errorText (message : String) : String := g.usage ++ g.program ++ ": error: " ++ message ++ "\n"

end Grammar

end CodeAtlas.Command
