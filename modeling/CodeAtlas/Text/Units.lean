namespace CodeAtlas.Text.Units

def isHigh (n : Nat) : Bool := decide (0xD800 ≤ n) && decide (n < 0xDC00)

def isLow (n : Nat) : Bool := decide (0xDC00 ≤ n) && decide (n < 0xE000)

def isSurrogate (n : Nat) : Bool := isHigh n || isLow n

def points : List Nat → List Nat
  | [] => []
  | [n] => [n]
  | h :: l :: rest =>
    if isHigh h && isLow l then
      (0x10000 + (h - 0xD800) * 1024 + (l - 0xDC00)) :: points rest
    else h :: points (l :: rest)

def character (point : Nat) : Char := if isSurrogate point then '\uFFFD' else Char.ofNat point

end CodeAtlas.Text.Units
