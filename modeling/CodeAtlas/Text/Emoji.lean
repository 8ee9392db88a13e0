import CodeAtlas.Text.Class
import CodeAtlas.Text.Emoji.Names

namespace CodeAtlas.Text.Emoji

def words : List Char → List (List Char)
  | [] => [[]]
  | ' ' :: rest => [] :: words rest
  | c :: rest =>
    match words rest with
    | word :: more => (c :: word) :: more
    | [] => [[c]]

def digitOf (c : Char) : Nat := if isAsciiDigit c then c.toNat - 48 else c.toNat - 87

/-- The characters that dotted hexadecimal code points stand for; `n` is
what has been read of the first. -/
def pointsFrom (n : Nat) : List Char → List Char
  | [] => [Char.ofNat n]
  | '.' :: rest => Char.ofNat n :: pointsFrom 0 rest
  | c :: rest => pointsFrom (n * 16 + digitOf c) rest

def valueOf (name : List Char) (isSeen : Bool) : List (List Char) → Option (List Char)
  | [] => none
  | ('=' :: value) :: rest => if isSeen then some (pointsFrom 0 value) else valueOf name false rest
  | word :: rest => valueOf name (isSeen || word == name) rest

def find? (table : List String) (name : List Char) : Option (List Char) :=
  table.findSome? fun line => valueOf name false (words line.toList)

def beforeEnding? (ending : String) (name : List Char) : Option (List Char) :=
  let stem := name.take (name.length - ending.length)
  if stem ++ ending.toList = name then some stem else none

def tones : List (String × Char) := [
  ("_light_skin_tone", .ofNat 0x1f3fb), ("_medium-light_skin_tone", .ofNat 0x1f3fc),
  ("_medium_skin_tone", .ofNat 0x1f3fd), ("_medium-dark_skin_tone", .ofNat 0x1f3fe),
  ("_dark_skin_tone", .ofNat 0x1f3ff)]

/-- A tone follows the first character and replaces a picture mark there. -/
def withTone (tone : Char) : List Char → List Char
  | first :: second :: rest =>
    if second = pictureMark then first :: tone :: rest else first :: tone :: second :: rest
  | emoji => emoji ++ [tone]

def tonedOf? (name : List Char) : Option (List Char) :=
  tones.findSome? fun t => (beforeEnding? t.1 name).bind fun stem =>
    (find? toned stem).map (withTone t.2)

def flagHead : String := "flag_for_"

def flagOf? (name : List Char) : Option (List Char) :=
  if flagHead.toList.isPrefixOf name then find? countries (name.drop flagHead.length) else none

/-- Names are in small letters; of the others only those that come down to
a letter of some name matter. -/
def small (c : Char) : Char :=
  let n := c.toNat
  if ('A' ≤ c ∧ c ≤ 'Z') ∨ (0xc0 ≤ n ∧ n ≤ 0xde ∧ n ≠ 0xd7) then Char.ofNat (n + 32)
  else if n = 0x212a then 'k'
  else if n = 0x212b then 'å'
  else c

def named? (name : List Char) : Option (List Char) :=
  let name := name.map small
  (find? plain name).or <| (find? toned name).or <| (find? countries name).or <|
    (tonedOf? name).or (flagOf? name)

/-- A code may end by asking for the picture or for the plain sign. -/
def forms : List (String × Char) := [("-emoji", pictureMark), ("-text", plainMark)]

def coded? (code : List Char) : Option (List Char) :=
  match forms.findSome? fun f => (beforeEnding? f.1 code).map (·, f.2) with
  | some (name, form) => (named? name).map (· ++ [form])
  | none => named? code

/-- The text with its short codes shown. After a colon, `pending` holds what
has been read since, last first. -/
def expandFrom : Option (List Char) → List Char → List Char
  | none, [] => []
  | some pending, [] => ':' :: pending.reverse
  | none, ':' :: rest => expandFrom (some []) rest
  | none, c :: rest => c :: expandFrom none rest
  | some pending, ':' :: rest =>
    let code := pending.reverse
    (coded? code).getD (':' :: code ++ [':']) ++ expandFrom none rest
  | some pending, c :: rest =>
    if isBlank c then ':' :: pending.reverse ++ c :: expandFrom none rest
    else expandFrom (some (c :: pending)) rest

def expand (text : List Char) : List Char := expandFrom none text

end CodeAtlas.Text.Emoji
