import CodeAtlas.Text.Class
import CodeAtlas.Text.Units

namespace CodeAtlas.Text.Quoted

def quoteFor (text : List Char) : Char :=
  if text.contains '\'' && !text.contains '"' then '"' else '\''

def padded (width : Nat) (n : Nat) : List Char :=
  let digits := Nat.toDigits 16 n
  List.replicate (width - digits.length) '0' ++ digits

def escape (quote : Char) (c : Char) : List Char :=
  if c = quote ∨ c = '\\' then ['\\', c]
  else if c = '\n' then ['\\', 'n']
  else if c = '\r' then ['\\', 'r']
  else if c = '\t' then ['\\', 't']
  else if isPrintable c then [c]
  else if c.toNat < 0x100 then ['\\', 'x'] ++ padded 2 c.toNat
  else if c.toNat < 0x10000 then ['\\', 'u'] ++ padded 4 c.toNat
  else ['\\', 'U'] ++ padded 8 c.toNat

def encode (text : List Char) : List Char :=
  let quote := quoteFor text
  quote :: text.flatMap (escape quote) ++ [quote]

def quoted (text : String) : String := String.ofList (encode text.toList)

def quotedPoints (points : List Nat) : String :=
  let quote := quoteFor (points.map Units.character)
  let shown (n : Nat) : List Char :=
    if Units.isSurrogate n then ['\\', 'u'] ++ padded 4 n else escape quote (Char.ofNat n)
  String.ofList (quote :: points.flatMap shown ++ [quote])

def quotedList (texts : List String) : String := "[" ++ ", ".intercalate (texts.map quoted) ++ "]"

end CodeAtlas.Text.Quoted
