import CodeAtlas.Command.Highlight
import CodeAtlas.Text.Cells
import CodeAtlas.Text.Emoji

namespace CodeAtlas.Command.Console

inductive Tone
  | error
  | success
  | warning
  | info

def Tone.label : Tone → String
  | .error => "Error:"
  | .success => "Success:"
  | .warning => "Warning:"
  | .info => "Info:"

def Tone.style : Tone → Style
  | .error => .colored .red
  | .success => .colored .green
  | .warning => .colored .yellow
  | .info => .colored .cyan

def opensTag (c : Char) : Bool := ('a' ≤ c && c ≤ 'z') || c == '#' || c == '/' || c == '@'

/-- A tag at the head of a text, with the backslashes before it and what
follows. -/
def tag? (s : List Char) : Option (List Char × List Char × List Char) :=
  let slashes := s.takeWhile (· = '\\')
  match s.dropWhile (· = '\\') with
  | '[' :: c :: rest =>
    let inside (c : Char) : Bool := c != '[' && c != ']'
    match opensTag c, rest.dropWhile inside with
    | true, ']' :: after => some (slashes, '[' :: c :: rest.takeWhile inside ++ [']'], after)
    | _, _ => none
  | _ => none

def prepend (c : Char) : List (List Char) → List (List Char)
  | piece :: more => (c :: piece) :: more
  | [] => [[c]]

/-- The text cut at its tags. Outside tags a backslash before a bracket is
lost. Each turn takes at least one character. -/
def piecesFrom : Nat → List Char → List (List Char)
  | 0, _ => [[]]
  | _, [] => [[]]
  | bound + 1, c :: rest =>
    match tag? (c :: rest) with
    | some (slashes, tag, after) => [] :: slashes :: tag :: piecesFrom bound after
    | none =>
      match c, rest with
      | '\\', '[' :: more => prepend '[' (piecesFrom bound more)
      | _, _ => prepend c (piecesFrom bound rest)

def pieces (text : List Char) : List (List Char) := piecesFrom (text.length + 1) text

def closed (s : List Char) : List Char :=
  match s.reverse with
  | '\\' :: '\\' :: _ => s
  | '\\' :: _ => s ++ ['\\']
  | _ => s

def isDropped (c : Char) : Bool := [7, 8, 11, 12, 13].contains c.toNat

def shown (text : List Char) : List Char :=
  (closed ((pieces text).flatMap Text.Emoji.expand)).filter (!isDropped ·)

def tabWidth : Nat := 8

structure Glyph where
  char : Char
  marks : List Stretch

def glyphs (marks : List Stretch) (text : List Char) : List Glyph :=
  text.zipIdx.map fun (c, i) => ⟨c, marks.filter fun m => m.start ≤ i && i < m.stop⟩

/-- The parts of a text that end at line ends and tabs. A tab becomes a space
and more of them up to the next stop. -/
def partsFrom (column : Nat) (pending : List Glyph) : List Glyph → List (List Glyph)
  | [] => [pending.reverse]
  | g :: rest =>
    if g.char = '\n' then pending.reverse :: [g] :: partsFrom 0 [] rest
    else if g.char = '\t' then
      let space := { g with char := ' ' }
      let part := (space :: pending).reverse
      let reached := column + Text.Cells.count (part.map Glyph.char)
      let missing := (tabWidth - reached % tabWidth) % tabWidth
      (part ++ List.replicate missing space) :: partsFrom (reached + missing) [] rest
    else partsFrom column (g :: pending) rest

def parts (text : List Glyph) : List (List Glyph) := partsFrom 0 [] text

/-- The style of a character: later stretches go over earlier ones. -/
def styleOf (palette : Palette) (g : Glyph) : Style :=
  palette.dress (g.marks.foldl (fun below m => m.style.onto below) .clear)

/-- Characters in one stretch after another are written together as far as
they lie in the same ones. -/
def render (palette : Palette) (part : List Glyph) : String :=
  String.join ((part.splitBy fun a b => a.marks == b.marks).map fun run =>
    let text := String.ofList (run.map Glyph.char)
    match run with
    | g :: _ => (styleOf palette g).wrap text
    | [] => text)

def marksOf (palette : Palette) (tone : Tone) (text : List Char) : List Stretch :=
  match palette with
  | .plain => []
  | _ => Highlight.stretches text ++ [⟨0, tone.label.length, tone.style⟩]

def line (palette : Palette) (tone : Tone) (text : String) : String :=
  let whole := tone.label.toList ++ ' ' :: shown text.toList
  let marked := glyphs (marksOf palette tone whole) whole
  String.join ((parts marked).map (render palette)) ++ "\n"

end CodeAtlas.Command.Console
