import CodeAtlas.Document.Path

namespace CodeAtlas.Command

inductive Color
  | standard
  | red
  | green
  | yellow
  | magenta
  | cyan
  | brightRed
  | brightGreen
  | brightYellow
  | brightBlue
  | brightMagenta
  deriving DecidableEq

def Color.code : Color → Nat
  | .standard => 39
  | .red => 31
  | .green => 32
  | .yellow => 33
  | .magenta => 35
  | .cyan => 36
  | .brightRed => 91
  | .brightGreen => 92
  | .brightYellow => 93
  | .brightBlue => 94
  | .brightMagenta => 95

/-- What a style leaves open is taken from the style below it. -/
structure Style where
  bold : Option Bool
  italic : Option Bool
  underline : Option Bool
  color : Option Color
  deriving DecidableEq

namespace Style

def clear : Style := ⟨none, none, none, none⟩

def colored (c : Color) : Style := { clear with color := some c }

def onto (top below : Style) : Style :=
  ⟨top.bold.or below.bold, top.italic.or below.italic, top.underline.or below.underline,
    top.color.or below.color⟩

def codes (s : Style) : List Nat :=
  let turned (on : Option Bool) (code : Nat) : List Nat := if on = some true then [code] else []
  turned s.bold 1 ++ turned s.italic 3 ++ turned s.underline 4 ++ (s.color.map Color.code).toList

def escape (codes : List Nat) : String :=
  "\x1b[" ++ ";".intercalate (codes.map toString) ++ "m"

def wrap (s : Style) (text : String) : String :=
  if s.codes.isEmpty then text else escape s.codes ++ text ++ escape [0]

end Style

inductive Palette
  | plain
  | colorless
  | full
  deriving DecidableEq

namespace Palette

def dress : Palette → Style → Style
  | .plain, _ => .clear
  | .colorless, s => { s with color := none }
  | .full, s => s

def compatibleVariable : String := "TTY_COMPATIBLE"

def forceVariable : String := "FORCE_COLOR"

def refuseVariable : String := "NO_COLOR"

def terminalVariable : String := "TERM"

def dumbTerminals : List String := ["dumb", "unknown"]

def isSet (env : Environment) (name : String) : Bool := (env.lookup name).getD "" != ""

def isTerminal (env : Environment) : Bool :=
  match env.lookup compatibleVariable with
  | some "0" => false
  | some "1" => true
  | _ => isSet env forceVariable

def isDumb (env : Environment) : Bool :=
  dumbTerminals.contains (((env.lookup terminalVariable).getD "").map Char.toLower)

def ofEnvironment (env : Environment) : Palette :=
  if !isTerminal env || isDumb env then .plain
  else if isSet env refuseVariable then .colorless
  else .full

end Palette

end CodeAtlas.Command
