import CodeAtlas.Json.Display
import CodeAtlas.Text.Numeral

namespace CodeAtlas

open Text.Quoted (quoted quotedList)

inductive Refusal
  | badInteger (shown : String)
  | badReal (text : String)
  | tooManyDigits (count : Nat)
  | tooLong
  | noNumber
  | notFileUri (shown : String)
  | openHostBracket
  | futureAddress
  | bracketedOctets
  | notAddress (host : String)
  | confusableHost (host : String)
  | embeddedNul
  | illegalName
  | unknownMode (text : String)
  | unknownDiagram (text : String)
  | emptyCommand
  | unknownMethod (shown : String) (known : List String)
  | negativeDepth
  | openQuotation
  | openEscape
  | negativeLength
  deriving DecidableEq

def Refusal.message : Refusal → String
  | .badInteger shown =>
    "invalid literal for int() with base 10: " ++ String.ofList (shown.toList.take 200)
  | .badReal text => "could not convert string to float: " ++ quoted text
  | .tooManyDigits count =>
    "Exceeds the limit (4300 digits) for integer string conversion: value has " ++ toString count
      ++ " digits; use sys.set_int_max_str_digits() to increase the limit"
  | .tooLong =>
    "Exceeds the limit (4300 digits) for integer string conversion; "
      ++ "use sys.set_int_max_str_digits() to increase the limit"
  | .noNumber => "cannot convert float NaN to integer"
  | .notFileUri shown => "Not a file URI: " ++ shown
  | .openHostBracket => "Invalid IPv6 URL"
  | .futureAddress => "IPvFuture address is invalid"
  | .bracketedOctets => "An IPv4 address cannot be in brackets"
  | .notAddress host => quoted host ++ " does not appear to be an IPv4 or IPv6 address"
  | .confusableHost host =>
    "netloc '" ++ host ++ "' contains invalid characters under NFKC normalization"
  | .embeddedNul => "embedded null byte"
  | .illegalName => "illegal environment variable name"
  | .unknownMode text => text ++ " is not a valid HierarchyMode"
  | .unknownDiagram text => "Unknown diagram kind " ++ text
  | .emptyCommand => "Language server command is empty"
  | .unknownMethod shown known =>
    "Unknown type hierarchy method " ++ shown ++ "; expected one of "
      ++ ", ".intercalate known
  | .negativeDepth => "max_call_depth must be >= 0"
  | .openQuotation => "No closing quotation"
  | .openEscape => "No escaped character"
  | .negativeLength => "readexactly size can not be less than zero"

inductive FileFault
  | missing (path : String)
  | present (path : String)
  | isDirectory (path : String)
  | notDirectory (path : String)
  | denied (path : String)
  | nameTooLong (path : String)
  | other (text : String)
  deriving DecidableEq

def FileFault.message : FileFault → String
  | .missing path => "[Errno 2] No such file or directory: " ++ quoted path
  | .denied path => "[Errno 13] Permission denied: " ++ quoted path
  | .present path => "[Errno 17] File exists: " ++ quoted path
  | .notDirectory path => "[Errno 20] Not a directory: " ++ quoted path
  | .isDirectory path => "[Errno 21] Is a directory: " ++ quoted path
  | .nameTooLong path => "[Errno 36] File name too long: " ++ quoted path
  | .other text => text

inductive Outage
  | notConnected
  | notRunning (method : String)
  | outputClosed (method : String)
  | notStarted
  | pipeClosed (reason : String)
  | exited
  | stopped
  | cannotStart (program : String) (fault : FileFault)
  | announced (text : String)
  deriving DecidableEq

def Outage.message : Outage → String
  | .notConnected => "The language server is not available or not initialized"
  | .notRunning method => "Language server is not running (request " ++ method ++ ")"
  | .outputClosed method => "Language server output closed (request " ++ method ++ ")"
  | .notStarted => "Language server is not started"
  | .pipeClosed reason => "Language server pipe closed: " ++ reason
  | .exited => "Language server exited"
  | .stopped => "Language server stopped"
  | .cannotStart program fault =>
    "Cannot start language server " ++ quoted program ++ ": " ++ fault.message
  | .announced text => text

inductive FrameFault
  | endInHeader
  | missingLength
  | endInBody
  deriving DecidableEq

def FrameFault.message : FrameFault → String
  | .endInHeader => "Language server closed stream inside a header block"
  | .missingLength => "Missing Content-Length from language server"
  | .endInBody => "Language server closed stream mid-message"

inductive Failure
  | notObject
  /-- a value of the wrong kind was counted, walked or used as a key -/
  | wrongKind
  | noSuchLine
  | refused (cause : Refusal)
  | infiniteNumber
  | noHome
  | badJson
  | badEncoding
  | unencodable
  | file (fault : FileFault)
  | unavailable (cause : Outage)
  | unsupported (capability : String)
  | rejected (method : String) (code : Json) (message : Json) (data : Json)
  | frame (fault : FrameFault)
  | timedOut
  /-- the search was cut before it ended -/
  | exhausted

namespace Failure

instance : Inhabited Failure := ⟨.exhausted⟩

def isService : Failure → Bool
  | .unavailable _ | .unsupported _ | .rejected .. | .frame _ => true
  | _ => false

/-- Unreadable JSON, unreadable bytes and unwritable texts are bad values too. -/
def isRefusal : Failure → Bool
  | .refused _ | .badJson | .badEncoding | .unencodable => true
  | _ => false

def isFile : Failure → Bool
  | .file _ => true
  | _ => false

/-- Failures without wording of their own are named by their kind. -/
def message : Failure → String
  | .notObject => "AttributeError"
  | .wrongKind => "TypeError"
  | .noSuchLine => "IndexError"
  | .refused cause => cause.message
  | .infiniteNumber => "cannot convert float infinity to integer"
  | .noHome => "Could not determine home directory."
  | .badJson => "JSONDecodeError"
  | .badEncoding => "UnicodeDecodeError"
  | .unencodable => "UnicodeEncodeError"
  | .file fault => fault.message
  | .unavailable cause => cause.message
  | .unsupported capability => "The language server does not support " ++ capability
  | .rejected method code message _ =>
    method ++ " failed (" ++ code.display ++ "): " ++ message.display
  | .frame fault => fault.message
  | .timedOut => ""
  | .exhausted => "The search did not finish"

/-- The message by code points, as an error reply may hold lone surrogates. -/
def wording : Failure → Json
  | .rejected method code message _ =>
    .ofPoints ((Json.text (method ++ " failed (" ++ code.display ++ "): ")).points
      ++ message.points)
  | e => .text e.message

end Failure

/-- Of a numeral that could not be read, and its text between quotes. -/
def Refusal.ofMisread (shown : String) : Text.Numeral.Misread → Refusal
  | .malformed => .badInteger shown
  | .tooManyDigits count => .tooManyDigits count

def writtenInteger (n : Int) : Except Failure String :=
  if Text.Numeral.isLong n then .error (.refused .tooLong) else .ok (toString n)

namespace Json

/-- The field of an object; anything else has no fields to ask for. -/
def field (key : String) : Json → Except Failure (Option Json)
  | .object fields => .ok (fields.lookup key)
  | _ => .error .notObject

/-- A number, a truth value or a numeral as an integer, rounded toward zero. -/
def toInteger : Json → Except Failure Int
  | .bool b => .ok (if b then 1 else 0)
  | .int n => .ok n
  | .real x =>
    match x.truncate? with
    | some n => .ok n
    | none => .error (if x.isNaN then .refused .noNumber else .infiniteNumber)
  | .text s =>
    (Text.Numeral.readInteger s.toList).mapError fun e => .refused (.ofMisread (quoted s) e)
  | .unpaired points =>
    (Text.Numeral.readInteger (points.map Text.Units.character)).mapError fun e =>
      .refused (.ofMisread (Text.Quoted.quotedPoints points) e)
  | _ => .error .wrongKind

end Json

end CodeAtlas
