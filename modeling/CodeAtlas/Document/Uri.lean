import CodeAtlas.Document.Host
import CodeAtlas.Document.Path

namespace CodeAtlas.Document

open Text

def isUnreserved (c : Char) : Bool :=
  isAsciiLetter c || isAsciiDigit c || c == '_' || c == '.' || c == '-' || c == '~'

def upperHex (n : Nat) : Char := if n < 10 then Char.ofNat (48 + n) else Char.ofNat (55 + n)

def escapeByte (b : UInt8) : List Char :=
  let c := Char.ofNat b.toNat
  if isUnreserved c || c == '/' then [c]
  else ['%', upperHex (b.toNat / 16), upperHex (b.toNat % 16)]

def percentEncode (text : List Char) : List Char := (Utf8.encode text).flatMap escapeByte

def hexByte? (a b : Char) : Option UInt8 := do
  return UInt8.ofNat ((← Json.Reader.hexValue? a) * 16 + (← Json.Reader.hexValue? b))

/-- Bytes are gathered over each run of ASCII characters and decoded
together; a sign without two hex digits stands for itself. -/
def percentDecodeFrom (pending : List UInt8) : List Char → List Char
  | [] => Utf8.decodeLossy pending
  | '%' :: a :: b :: rest =>
    match hexByte? a b with
    | some byte => percentDecodeFrom (pending ++ [byte]) rest
    | none => percentDecodeFrom (pending ++ [37]) (a :: b :: rest)
  | c :: rest =>
    if c.toNat < 128 then percentDecodeFrom (pending ++ [UInt8.ofNat c.toNat]) rest
    else Utf8.decodeLossy pending ++ c :: percentDecodeFrom [] rest

def percentDecode (text : List Char) : List Char := percentDecodeFrom [] text

def cut (c : Char) (text : List Char) : List Char × Option (List Char) :=
  match text.dropWhile (· ≠ c) with
  | [] => (text, none)
  | _ :: rest => (text.takeWhile (· ≠ c), some rest)

def isSchemeChar (c : Char) : Bool :=
  isAsciiLetter c || isAsciiDigit c || c == '+' || c == '-' || c == '.'

def splitScheme (text : List Char) : List Char × List Char :=
  match cut ':' text with
  | (first :: more, some rest) =>
    if isAsciiLetter first && more.all isSchemeChar then ((first :: more).map Char.toLower, rest)
    else ([], text)
  | _ => ([], text)

def endsHost (c : Char) : Bool := c == '/' || c == '?' || c == '#'

def splitHost : List Char → List Char × List Char
  | '/' :: '/' :: rest => (rest.takeWhile (!endsHost ·), rest.dropWhile (!endsHost ·))
  | text => ([], text)

def confusables : List Nat :=
  [0x2047, 0x2048, 0x2049, 0x2100, 0x2101, 0x2105, 0x2106, 0x2a74, 0xfe13, 0xfe16, 0xfe55, 0xfe56,
    0xfe5f, 0xfe6b, 0xff03, 0xff0f, 0xff1a, 0xff1f, 0xff20]

def checkConfusables (host : List Char) : Except Failure Unit :=
  if host.any fun c => confusables.contains c.toNat then
    .error (.refused (.confusableHost (String.ofList host)))
  else .ok ()

def parameterSchemes : List String :=
  ["", "ftp", "hdl", "prospero", "http", "https", "shttp", "imap", "rtsp", "rtspu", "sip",
    "sips", "mms", "sftp", "tel"]

def dropParameters (path : List Char) : List Char :=
  let lastSegment := (path.reverse.takeWhile (· ≠ '/')).reverse
  path.take (path.length - lastSegment.length) ++ (cut ';' lastSegment).1

structure Address where
  scheme : String
  path : List Char
  deriving DecidableEq

def isIgnored (c : Char) : Bool := c == '\t' || c == '\r' || c == '\n'

def isLeading (c : Char) : Bool := decide (c.toNat ≤ 32)

def Address.parse (text : List Char) : Except Failure Address := do
  let (schemeChars, rest) := splitScheme ((text.dropWhile isLeading).filter (!isIgnored ·))
  let (host, rest) := splitHost rest
  Host.check host
  checkConfusables host
  let path := (cut '?' (cut '#' rest).1).1
  let scheme := String.ofList schemeChars
  return ⟨scheme, if parameterSchemes.contains scheme then dropParameters path else path⟩

def uriOfPath (p : Path) : String := "file://" ++ String.ofList (percentEncode p.toText.toList)

/-- A drive letter after the leading slash makes that slash superfluous. -/
def dropDriveSlash (path : List Char) : List Char :=
  match path with
  | '/' :: c :: ':' :: rest => c :: ':' :: rest
  | p => p

def pathOfUri (uri : String) : Except Failure Path := do
  let address ← Address.parse uri.toList
  if address.scheme ≠ "file" then throw (.refused (.notFileUri uri))
  return Path.ofChars (dropDriveSlash (percentDecode address.path))

/-- Base name of the file without its extension; the whole address when
there is none. -/
def stemOfUri (uri : String) : Except Failure String := do
  let address ← Address.parse uri.toList
  let stem := (Path.ofChars (percentDecode address.path)).stem
  return if stem = "" then uri else stem

/-- A value that should be a file address: empty ones are refused as such,
others than text have no parts to split. -/
def addressText : Json → Except Failure String
  | .text s => .ok s
  | .unpaired points => .ok (Json.unpaired points).display
  | .list _ | .object _ => .error .wrongKind
  | v => if v.truthy then .error .notObject else .error (.refused (.notFileUri v.display))

def languages : List (String × String) :=
  [(".c", "c"), (".h", "c"), (".cc", "cpp"), (".cpp", "cpp"), (".cxx", "cpp"), (".hh", "cpp"),
    (".hpp", "cpp"), (".hxx", "cpp"), (".m", "objective-c"), (".mm", "objective-cpp"),
    (".cu", "cuda-cpp"), (".java", "java"), (".cs", "csharp"), (".ts", "typescript"),
    (".tsx", "typescriptreact"), (".js", "javascript"), (".py", "python"), (".go", "go"),
    (".rs", "rust")]

def plainLanguage : String := "plaintext"

def languageOf (p : Path) : String := (languages.lookup p.suffix.toLower).getD plainLanguage

end CodeAtlas.Document
