namespace CodeAtlas.Text.Utf8

def encodeChar (c : Char) : List UInt8 :=
  let n := c.toNat
  if n < 0x80 then [UInt8.ofNat n]
  else if n < 0x800 then [UInt8.ofNat (0xC0 + n / 64), UInt8.ofNat (0x80 + n % 64)]
  else if n < 0x10000 then
    [UInt8.ofNat (0xE0 + n / 4096), UInt8.ofNat (0x80 + n / 64 % 64), UInt8.ofNat (0x80 + n % 64)]
  else
    [UInt8.ofNat (0xF0 + n / 262144), UInt8.ofNat (0x80 + n / 4096 % 64),
      UInt8.ofNat (0x80 + n / 64 % 64), UInt8.ofNat (0x80 + n % 64)]

def encode (text : List Char) : List UInt8 := text.flatMap encodeChar

def isContinuation (b : UInt8) : Bool := decide (0x80 ≤ b.toNat) && decide (b.toNat ≤ 0xBF)

/-- The bytes that may follow a lead byte: no overlong form, no surrogate,
nothing past the last code point. -/
def mayFollow (lead b : UInt8) : Bool :=
  if lead.toNat = 0xE0 then decide (0xA0 ≤ b.toNat) && decide (b.toNat ≤ 0xBF)
  else if lead.toNat = 0xED then decide (0x80 ≤ b.toNat) && decide (b.toNat ≤ 0x9F)
  else if lead.toNat = 0xF0 then decide (0x90 ≤ b.toNat) && decide (b.toNat ≤ 0xBF)
  else if lead.toNat = 0xF4 then decide (0x80 ≤ b.toNat) && decide (b.toNat ≤ 0x8F)
  else isContinuation b

def joined (lead : Nat) (tail : List UInt8) : Char :=
  Char.ofNat (tail.foldl (fun n b => n * 64 + (b.toNat - 0x80)) lead)

/-- One entry per character, and `none` for each longest broken sequence. -/
def scan : List UInt8 → List (Option Char)
  | [] => []
  | a :: r =>
    if a.toNat < 0x80 then some (Char.ofNat a.toNat) :: scan r
    else if a.toNat < 0xC2 ∨ 0xF4 < a.toNat then none :: scan r
    else
      match r with
      | [] => [none]
      | b :: r₁ =>
        if !mayFollow a b then none :: scan (b :: r₁)
        else if a.toNat < 0xE0 then some (joined (a.toNat - 0xC0) [b]) :: scan r₁
        else
          match r₁ with
          | [] => [none]
          | c :: r₂ =>
            if !isContinuation c then none :: scan (c :: r₂)
            else if a.toNat < 0xF0 then some (joined (a.toNat - 0xE0) [b, c]) :: scan r₂
            else
              match r₂ with
              | [] => [none]
              | d :: r₃ =>
                if !isContinuation d then none :: scan (d :: r₃)
                else some (joined (a.toNat - 0xF0) [b, c, d]) :: scan r₃

def allSome : List (Option Char) → Option (List Char)
  | [] => some []
  | none :: _ => none
  | some c :: rest => (allSome rest).map (c :: ·)

def decode? (bytes : List UInt8) : Option (List Char) := allSome (scan bytes)

def decodeLossy (bytes : List UInt8) : List Char := (scan bytes).map fun c => c.getD '\uFFFD'

end CodeAtlas.Text.Utf8
