import CodeAtlas.Json
import CodeAtlas.Text.Numeral

namespace CodeAtlas.Json.Reader

open Text Text.Numeral

abbrev Step (α : Type) := Except Misread (α × List Char)

def isSpace (c : Char) : Bool := c == ' ' || c == '\t' || c == '\n' || c == '\r'

def skip (s : List Char) : List Char := s.dropWhile isSpace

def hexValue? (c : Char) : Option Nat :=
  if '0' ≤ c ∧ c ≤ '9' then some (c.toNat - 48)
  else if 'a' ≤ c ∧ c ≤ 'f' then some (c.toNat - 87)
  else if 'A' ≤ c ∧ c ≤ 'F' then some (c.toNat - 55)
  else none

def hexQuad? (a b c d : Char) : Option Nat := do
  return (((← hexValue? a) * 16 + (← hexValue? b)) * 16 + (← hexValue? c)) * 16 + (← hexValue? d)

def escaped? : Char → Option Nat
  | '"' => some 0x22
  | '\\' => some 0x5C
  | '/' => some 0x2F
  | 'b' => some 8
  | 'f' => some 12
  | 'n' => some 10
  | 'r' => some 13
  | 't' => some 9
  | _ => none

/-- The units of a string up to its closing quote, and what follows it. -/
def units : List Char → Step (List Nat)
  | [] => .error .malformed
  | '"' :: rest => .ok ([], rest)
  | '\\' :: 'u' :: a :: b :: c :: d :: rest =>
    match hexQuad? a b c d with
    | some n => (units rest).map fun r => (n :: r.1, r.2)
    | none => .error .malformed
  | '\\' :: e :: rest =>
    match escaped? e with
    | some n => (units rest).map fun r => (n :: r.1, r.2)
    | none => .error .malformed
  | c :: rest =>
    if c.toNat < 32 ∨ c = '\\' then .error .malformed
    else (units rest).map fun r => (c.toNat :: r.1, r.2)

def string (s : List Char) : Step Json :=
  (units s).map fun r => (.ofPoints (Units.points r.1), r.2)

def key (s : List Char) : Step String :=
  (units s).map fun r => (String.ofList ((Units.points r.1).map Units.character), r.2)

def wholePart : List Char → Option (List Char × List Char)
  | '0' :: rest => some (['0'], rest)
  | s =>
    let digits := s.takeWhile isAsciiDigit
    if digits.isEmpty then none else some (digits, s.dropWhile isAsciiDigit)

def fractionPart : List Char → List Char × List Char
  | '.' :: rest =>
    let digits := rest.takeWhile isAsciiDigit
    if digits.isEmpty then ([], '.' :: rest) else (digits, rest.dropWhile isAsciiDigit)
  | s => ([], s)

def exponentPart : List Char → Option Int × List Char
  | [] => (none, [])
  | c :: rest =>
    if c = 'e' ∨ c = 'E' then
      let (negative, body) := signOf rest
      let digits := body.takeWhile isAsciiDigit
      if digits.isEmpty then (none, c :: rest)
      else
        let n : Int := digitsValue digits
        (some (if negative then -n else n), body.dropWhile isAsciiDigit)
    else (none, c :: rest)

def number (s : List Char) : Step Json :=
  let (negative, body) := match s with
    | '-' :: rest => (true, rest)
    | rest => (false, rest)
  match wholePart body with
  | none => .error .malformed
  | some (whole, rest) =>
    let (fraction, rest) := fractionPart rest
    let (exponent, rest) := exponentPart rest
    if fraction.isEmpty ∧ exponent.isNone then
      if maxDigits < whole.length then .error (.tooManyDigits whole.length)
      else
        let n : Int := digitsValue whole
        .ok (.int (if negative then -n else n), rest)
    else
      let e : Int := exponent.getD 0 - fraction.length
      .ok (.real (Binary64.ofDecimal negative (digitsValue (whole ++ fraction)) e), rest)

mutual

/-- The fuel bounds the number of nested calls; the text's length is enough. -/
def value : Nat → List Char → Step Json
  | 0, _ => .error .malformed
  | fuel + 1, s =>
    match s with
    | '"' :: rest => string rest
    | '[' :: rest =>
      match skip rest with
      | ']' :: rest => .ok (.list [], rest)
      | rest => (elements fuel rest).map fun r => (.list r.1, r.2)
    | '{' :: rest =>
      match skip rest with
      | '}' :: rest => .ok (.object [], rest)
      | rest => (members fuel rest).map fun r => (.object (ofFields r.1), r.2)
    | 'n' :: 'u' :: 'l' :: 'l' :: rest => .ok (.null, rest)
    | 't' :: 'r' :: 'u' :: 'e' :: rest => .ok (.bool true, rest)
    | 'f' :: 'a' :: 'l' :: 's' :: 'e' :: rest => .ok (.bool false, rest)
    | 'N' :: 'a' :: 'N' :: rest => .ok (.real Binary64.nan, rest)
    | 'I' :: 'n' :: 'f' :: 'i' :: 'n' :: 'i' :: 't' :: 'y' :: rest =>
      .ok (.real (Binary64.infinity false), rest)
    | '-' :: 'I' :: 'n' :: 'f' :: 'i' :: 'n' :: 'i' :: 't' :: 'y' :: rest =>
      .ok (.real (Binary64.infinity true), rest)
    | s => number s

def elements : Nat → List Char → Step (List Json)
  | 0, _ => .error .malformed
  | fuel + 1, s =>
    match value fuel s with
    | .error e => .error e
    | .ok (v, rest) =>
      match skip rest with
      | ']' :: rest => .ok ([v], rest)
      | ',' :: rest => (elements fuel (skip rest)).map fun r => (v :: r.1, r.2)
      | _ => .error .malformed

def members : Nat → List Char → Step (List (String × Json))
  | 0, _ => .error .malformed
  | fuel + 1, s =>
    match s with
    | '"' :: rest =>
      match key rest with
      | .error e => .error e
      | .ok (name, rest) =>
        match skip rest with
        | ':' :: rest =>
          match value fuel (skip rest) with
          | .error e => .error e
          | .ok (v, rest) =>
            match skip rest with
            | '}' :: rest => .ok ([(name, v)], rest)
            | ',' :: rest => (members fuel (skip rest)).map fun r => ((name, v) :: r.1, r.2)
            | _ => .error .malformed
        | _ => .error .malformed
    | _ => .error .malformed

end

def read (s : List Char) : Except Misread Json :=
  match value (s.length + 1) (skip s) with
  | .error e => .error e
  | .ok (v, rest) => if (skip rest).isEmpty then .ok v else .error .malformed

end CodeAtlas.Json.Reader
