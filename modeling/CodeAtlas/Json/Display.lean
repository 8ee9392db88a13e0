import CodeAtlas.Json
import CodeAtlas.Text.Quoted

namespace CodeAtlas.Json

open Text.Quoted

mutual

def shown : Json → String
  | .null => "None"
  | .bool true => "True"
  | .bool false => "False"
  | .int n => toString n
  | .real x => x.toText
  | .text s => quoted s
  | .unpaired points => quotedPoints points
  | .list items => "[" ++ shownItems items ++ "]"
  | .object fields => "\x7b" ++ shownFields fields ++ "\x7d"

def shownItems : List Json → String
  | [] => ""
  | [v] => shown v
  | v :: rest => shown v ++ ", " ++ shownItems rest

def shownFields : List (String × Json) → String
  | [] => ""
  | [(k, v)] => quoted k ++ ": " ++ shown v
  | (k, v) :: rest => quoted k ++ ": " ++ shown v ++ ", " ++ shownFields rest

end

def points : Json → List Nat
  | .text s => s.toList.map Char.toNat
  | .unpaired points => points
  | v => (shown v).toList.map Char.toNat

def display : Json → String
  | .text s => s
  | .unpaired points => String.ofList (points.map Text.Units.character)
  | v => shown v

end CodeAtlas.Json
