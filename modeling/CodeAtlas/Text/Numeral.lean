import CodeAtlas.Number.Binary64
import CodeAtlas.Text.Class

namespace CodeAtlas.Text.Numeral

def trim (blank : Char → Bool) (text : List Char) : List Char :=
  ((text.dropWhile blank).reverse.dropWhile blank).reverse

/-- The blanks allowed around a numeral: all but the four separators U+001C
to U+001F. -/
def isPadding (c : Char) : Bool := isBlank c && !inRanges [(28, 31)] c.toNat

def plainDigit (c : Char) : Char :=
  match digitValue? c with
  | some d => Char.ofNat (48 + d)
  | none => c

def isDigitOrLink (c : Char) : Bool := isAsciiDigit c || c == '_'

/-- The digits of a run in which single underscores stand between digits. -/
def digits? : List Char → Option (List Char)
  | [] => none
  | [c] => if isAsciiDigit c then some [c] else none
  | c :: '_' :: rest => if isAsciiDigit c then (digits? rest).map (c :: ·) else none
  | c :: rest => if isAsciiDigit c then (digits? rest).map (c :: ·) else none

def digitsValue (digits : List Char) : Nat :=
  digits.foldl (fun n c => n * 10 + (c.toNat - 48)) 0

def signOf : List Char → Bool × List Char
  | '-' :: rest => (true, rest)
  | '+' :: rest => (false, rest)
  | rest => (false, rest)

inductive Misread
  | malformed
  | tooManyDigits (count : Nat)
  deriving DecidableEq

def maxDigits : Nat := 4300

def isLong (n : Int) : Bool := decide (Binary64.tenTo maxDigits ≤ n.natAbs)

/-- A run that is too long is refused before what follows it is looked at. -/
def readInteger (text : List Char) : Except Misread Int :=
  let (negative, body) := signOf ((trim isPadding text).map plainDigit)
  match digits? (body.takeWhile isDigitOrLink) with
  | none => .error .malformed
  | some digits =>
    if maxDigits < digits.length then .error (.tooManyDigits digits.length)
    else if body.any (!isDigitOrLink ·) then .error .malformed
    else .ok (if negative then -(digitsValue digits : Int) else digitsValue digits)

def dropUnderscores (previous : Char) : List Char → Option (List Char)
  | [] => if previous = '_' then none else some []
  | c :: rest =>
    if c = '_' then
      if isAsciiDigit previous then dropUnderscores c rest else none
    else if previous = '_' ∧ !isAsciiDigit c then none
    else (dropUnderscores c rest).map (c :: ·)

def lowered (text : List Char) : List Char := text.map Char.toLower

/-- The exponent part after a mantissa, if the text ends with one. -/
def exponent? : List Char → Option Int
  | [] => some 0
  | c :: rest =>
    if c = 'e' ∨ c = 'E' then
      let (negative, body) := signOf rest
      if body.isEmpty ∨ !body.all isAsciiDigit then none
      else some (if negative then -(digitsValue body : Int) else digitsValue body)
    else none

def mantissa (text : List Char) : List Char × List Char × List Char :=
  let whole := text.takeWhile isAsciiDigit
  match text.dropWhile isAsciiDigit with
  | '.' :: rest => (whole, rest.takeWhile isAsciiDigit, rest.dropWhile isAsciiDigit)
  | rest => (whole, [], rest)

/-- A decimal number, or a name of infinity or of no number in any case. -/
def readReal (text : List Char) : Option Binary64 := do
  let plain ← dropUnderscores '.' ((trim isPadding text).map plainDigit)
  let (negative, body) := signOf plain
  if lowered body = "inf".toList ∨ lowered body = "infinity".toList then
    return Binary64.infinity negative
  if lowered body = "nan".toList then return Binary64.nan
  let (whole, fraction, rest) := mantissa body
  if whole.isEmpty ∧ fraction.isEmpty then none
  let e ← exponent? rest
  return Binary64.ofDecimal negative (digitsValue (whole ++ fraction)) (e - fraction.length)

end CodeAtlas.Text.Numeral
