import CodeAtlas.Failure
import CodeAtlas.Json.Reader

namespace CodeAtlas.Document.Host

open Text

def pieces (separator : Char) : List Char → List (List Char)
  | [] => [[]]
  | c :: rest =>
    match pieces separator rest with
    | [] => [[c]]
    | piece :: more => if c = separator then [] :: piece :: more else (c :: piece) :: more

def isOctet (s : List Char) : Bool :=
  !s.isEmpty && decide (s.length ≤ 3) && s.all isAsciiDigit && (s.head? != some '0' || s == ['0'])
    && decide (Numeral.digitsValue s ≤ 255)

def isDotted (s : List Char) : Bool :=
  let octets := pieces '.' s
  octets.length == 4 && octets.all isOctet

def isGroup (s : List Char) : Bool :=
  !s.isEmpty && decide (s.length ≤ 4) && s.all fun c => (Json.Reader.hexValue? c).isSome

/-- An address may end in four octets, which stand for two groups. -/
def groups? (s : List Char) : Option (List (List Char)) :=
  let parts := pieces ':' s
  let final := parts.getLast?.getD []
  if parts.length < 3 then none
  else if !final.contains '.' then some parts
  else if isDotted final then some (parts.dropLast ++ [['0'], ['0']])
  else none

/-- The groups on one side of a gap; an empty side is written as one empty
group. -/
def side? (parts : List (List Char)) : Option Nat :=
  if parts == [[]] then some 0 else if parts.all isGroup then some parts.length else none

def isGrouped (s : List Char) : Bool :=
  match groups? s with
  | none => false
  | some parts =>
    let opening := (parts.drop 1).dropLast.takeWhile fun p => !p.isEmpty
    if opening.length + 2 == parts.length then parts.length == 8 && parts.all isGroup
    else
      match side? (parts.take (opening.length + 1)), side? (parts.drop (opening.length + 2)) with
      | some before, some after => decide (before + after ≤ 7)
      | _, _ => false

def isZoned (s : List Char) : Bool :=
  let zone := s.dropWhile (· ≠ '%')
  isGrouped (s.takeWhile (· ≠ '%')) && zone != ['%'] && !(zone.drop 1).contains '%'

/-- A `v`, a version in hex digits, a dot, and at least one character. -/
def isFuture (s : List Char) : Bool :=
  let isHex (c : Char) : Bool := (Json.Reader.hexValue? c).isSome
  match s with
  | 'v' :: version =>
    (version.head?.any isHex) &&
      (match version.dropWhile isHex with
        | '.' :: _ :: _ => true
        | _ => false)
  | _ => false

def checkName (name : List Char) : Except Failure Unit :=
  if name.head? = some 'v' then
    if isFuture name then .ok () else .error (.refused .futureAddress)
  else if isDotted name then .error (.refused .bracketedOctets)
  else if isZoned name then .ok ()
  else .error (.refused (.notAddress (String.ofList name)))

def withoutUser (host : List Char) : List Char := (host.reverse.takeWhile (· ≠ '@')).reverse

def checkBracketed (host : List Char) : Except Failure Unit :=
  let place := withoutUser host
  match place.dropWhile (· ≠ '[') with
  | [] => checkName (place.takeWhile (· ≠ ':'))
  | _ :: bracketed =>
    let port := (bracketed.dropWhile (· ≠ ']')).drop 1
    if place.head? ≠ some '[' ∨ !(port.isEmpty || port.head? == some ':') then
      .error (.refused .openHostBracket)
    else checkName (bracketed.takeWhile (· ≠ ']'))

def check (host : List Char) : Except Failure Unit :=
  match host.contains '[', host.contains ']' with
  | true, true => checkBracketed host
  | false, false => .ok ()
  | _, _ => .error (.refused .openHostBracket)

end CodeAtlas.Document.Host
