import CodeAtlas.Json
import CodeAtlas.Text.Quoted

namespace CodeAtlas.Json.Writer

open Text.Quoted (padded)

def unit (n : Nat) : List Char := ['\\', 'u'] ++ padded 4 n

def asciiEscape (c : Char) : List Char :=
  let n := c.toNat
  if n < 0x10000 then unit n
  else unit (0xD800 + (n - 0x10000) / 1024) ++ unit (0xDC00 + (n - 0x10000) % 1024)

def escape (ascii : Bool) (c : Char) : List Char :=
  if c = '"' then ['\\', '"']
  else if c = '\\' then ['\\', '\\']
  else if c = '\n' then ['\\', 'n']
  else if c = '\r' then ['\\', 'r']
  else if c = '\t' then ['\\', 't']
  else if c = '\x08' then ['\\', 'b']
  else if c = '\x0c' then ['\\', 'f']
  else if c.toNat < 32 then unit c.toNat
  else if ascii && decide (126 < c.toNat) then asciiEscape c
  else [c]

def string (ascii : Bool) (s : String) : List Char :=
  '"' :: s.toList.flatMap (escape ascii) ++ ['"']

def pointText (ascii : Bool) (points : List Nat) : List Char :=
  let written (n : Nat) : List Char :=
    if Text.Units.isSurrogate n then unit n else escape ascii (Char.ofNat n)
  '"' :: points.flatMap written ++ ['"']

def real (x : Binary64) : List Char := (x.render ⟨"Infinity", "NaN"⟩).toList

def scalar (ascii : Bool) : Json → List Char
  | .null => ['n', 'u', 'l', 'l']
  | .bool true => ['t', 'r', 'u', 'e']
  | .bool false => ['f', 'a', 'l', 's', 'e']
  | .int n => (toString n).toList
  | .real x => real x
  | .text s => string ascii s
  | .unpaired points => pointText ascii points
  | .list _ => ['[', ']']
  | .object _ => ['\x7b', '\x7d']

mutual

def compact : Json → List Char
  | .list items => '[' :: compactItems items ++ [']']
  | .object fields => '\x7b' :: compactFields fields ++ ['\x7d']
  | v => scalar false v

def compactItems : List Json → List Char
  | [] => []
  | [v] => compact v
  | v :: rest => compact v ++ ',' :: compactItems rest

def compactFields : List (String × Json) → List Char
  | [] => []
  | [(k, v)] => string false k ++ ':' :: compact v
  | (k, v) :: rest => string false k ++ ':' :: compact v ++ ',' :: compactFields rest

end

def newline (depth : Nat) : List Char := '\n' :: List.replicate (2 * depth) ' '

mutual

def indented (depth : Nat) : Json → List Char
  | .list (v :: rest) => '[' :: indentedItems (depth + 1) (v :: rest) ++ newline depth ++ [']']
  | .object (f :: rest) =>
    '\x7b' :: indentedFields (depth + 1) (f :: rest) ++ newline depth ++ ['\x7d']
  | v => scalar true v

def indentedItems (depth : Nat) : List Json → List Char
  | [] => []
  | [v] => newline depth ++ indented depth v
  | v :: rest => newline depth ++ indented depth v ++ ',' :: indentedItems depth rest

def indentedFields (depth : Nat) : List (String × Json) → List Char
  | [] => []
  | [(k, v)] => newline depth ++ string true k ++ [':', ' '] ++ indented depth v
  | (k, v) :: rest =>
    newline depth ++ string true k ++ [':', ' '] ++ indented depth v
      ++ ',' :: indentedFields depth rest

end

def toLine (j : Json) : String := String.ofList (compact j)

def toPage (j : Json) : String := String.ofList (indented 0 j)

end CodeAtlas.Json.Writer
