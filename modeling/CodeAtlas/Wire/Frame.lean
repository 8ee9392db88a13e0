import CodeAtlas.Failure
import CodeAtlas.Json.Reader
import CodeAtlas.Json.Writer
import CodeAtlas.Text.Utf8

namespace CodeAtlas.Wire

open Text Text.Numeral

def bodyOf (message : Json) : List UInt8 := Utf8.encode (Json.Writer.compact message)

def headerText (length : Nat) : List Char :=
  "Content-Length: ".toList ++ Nat.toDigits 10 length ++ ['\r', '\n', '\r', '\n']

def encode (message : Json) : List UInt8 :=
  let body := bodyOf message
  Utf8.encode (headerText body.length) ++ body

/-- The frame of a message, if bytes can be written for it. Its integers come
first, then its texts, and then the length of its body. -/
def frameOf (message : Json) : Except Failure (List UInt8) :=
  if !message.isShort then .error (.refused .tooLong)
  else if !message.isEncodable then .error .unencodable
  else if isLong (bodyOf message).length then .error (.refused .tooLong)
  else .ok (encode message)

inductive Reading
  /-- the frame is not complete, and more may come -/
  | waiting
  /-- the stream ended between two frames -/
  | ended
  | message (value : Json) (rest : List UInt8)
  | broken (failure : Failure)

def lengthName : List Char := "content-length".toList

def asciiText (line : List UInt8) : Option (List Char) :=
  if line.all fun b => b.toNat < 128 then some (line.map fun b => Char.ofNat b.toNat) else none

def integerOf (text : List Char) : Except Failure Int :=
  (readInteger text).mapError fun e => 
    .refused (.ofMisread (Quoted.quoted (String.ofList text)) e)

def splitHeader (line : List Char) : List Char × List Char :=
  (trim isBlank (line.takeWhile (· ≠ ':')), trim isBlank ((line.dropWhile (· ≠ ':')).drop 1))

def lengthAfter (known : Option Int) (line : List UInt8) : Except Failure (Option Int) :=
  match asciiText line with
  | none => .error .badEncoding
  | some text =>
    let (name, value) := splitHeader text
    if lowered name = lengthName then (integerOf value).map some else .ok known

def parseBody (bytes : List UInt8) : Except Failure Json :=
  match Utf8.decode? bytes with
  | none => .error .badEncoding
  | some text =>
    (Json.Reader.read text).mapError fun e =>
      match e with
      | .malformed => .badJson
      | .tooManyDigits count => .refused (.tooManyDigits count)

def readBody (closed : Bool) (length : Int) (bytes : List UInt8) : Reading :=
  if length < 0 then .broken (.refused .negativeLength)
  else if (bytes.length : Int) < length then
    if closed then .broken (.frame .endInBody) else .waiting
  else
    match parseBody (bytes.take length.toNat) with
    | .ok value => .message value (bytes.drop length.toNat)
    | .error e => .broken e

def isBlankLine (line : List UInt8) : Bool := line == [13, 10] || line == [10]

/-- No more bytes will come, and so far a length was found or not. -/
def atEnd : Option Int → Reading
  | none => .ended
  | some _ => .broken (.frame .endInHeader)

/-- Header lines from the known length and the bytes of the line so far,
newest first. A line that the end of the stream cuts still counts. -/
def readHeader (closed : Bool) (known : Option Int) (line : List UInt8) : List UInt8 → Reading
  | [] =>
    if !closed then .waiting
    else if line.isEmpty then atEnd known
    else
      match lengthAfter known line.reverse with
      | .error e => .broken e
      | .ok length => atEnd length
  | b :: rest =>
    if b ≠ 10 then readHeader closed known (b :: line) rest
    else if isBlankLine (b :: line).reverse then
      match known with
      | none => .broken (.frame .missingLength)
      | some length => readBody closed length rest
    else
      match lengthAfter known (b :: line).reverse with
      | .error e => .broken e
      | .ok length => readHeader closed length [] rest

def next (closed : Bool) (bytes : List UInt8) : Reading := readHeader closed none [] bytes

/-- Frames of a closed stream, up to a count, an error or the end. A null
message ends it too. -/
def readAll : Nat → List UInt8 → List (Except Failure Json)
  | 0, _ => []
  | count + 1, bytes =>
    match next true bytes with
    | .message .null _ => [.ok .null]
    | .message value rest => .ok value :: readAll count rest
    | .broken e => [.error e]
    | _ => [.ok .null]

end CodeAtlas.Wire
