import CodeAtlas.Command.Style
import CodeAtlas.Text.Pattern

namespace CodeAtlas.Command

open Text

structure Stretch where
  start : Nat
  stop : Nat
  style : Style
  deriving DecidableEq

namespace Highlight

inductive Mark
  | tagStart
  | tagName
  | tagContents
  | tagEnd
  | attributeName
  | attributeValue
  | bracket
  | address
  | uuid
  | call
  | truth
  | falsehood
  | nothing
  | ellipsis
  | number
  | path
  | fileName
  | quotation
  | url
  deriving DecidableEq

def Mark.style : Mark → Style
  | .tagStart | .tagEnd | .bracket => ⟨some true, none, none, none⟩
  | .tagName => ⟨some true, none, none, some .brightMagenta⟩
  | .tagContents => .colored .standard
  | .attributeName => ⟨none, some false, none, some .yellow⟩
  | .attributeValue => ⟨none, some false, none, some .magenta⟩
  | .address => ⟨some true, none, none, some .brightGreen⟩
  | .uuid => ⟨some false, none, none, some .brightYellow⟩
  | .call => ⟨some true, none, none, some .magenta⟩
  | .truth => ⟨none, some true, none, some .brightGreen⟩
  | .falsehood => ⟨none, some true, none, some .brightRed⟩
  | .nothing => ⟨none, some true, none, some .magenta⟩
  | .ellipsis => .colored .yellow
  | .number => ⟨some true, some false, none, some .cyan⟩
  | .path => .colored .magenta
  | .fileName => .colored .brightMagenta
  | .quotation => ⟨some false, some false, none, some .green⟩
  | .url => ⟨some false, some false, some true, some .brightBlue⟩

open Pattern

abbrev Rule := Pattern Mark

def word : Rule := .one isWord

def digit : Rule := .one isAsciiDigit

def anyDigit : Rule := .one fun c => (digitValue? c).isSome

def isHex (c : Char) : Bool := isAsciiDigit c || ('a' ≤ c && c ≤ 'f') || ('A' ≤ c && c ≤ 'F')

def hex : Rule := .one isHex

def wordOr (others : String) : Rule := .one fun c => isWord c || others.toList.contains c

def inLine : Rule := .one (· != '\n')

def tag : Rule :=
  all [.named .tagStart (literal "<"), .named .tagName (many (wordOr "-.:|")),
    .named .tagContents (many (.one fun _ => true)), .named .tagEnd (literal ">")]

def assignment : Rule :=
  all [.named .attributeName (upTo 50 word), literal "=",
    optional (.named .attributeValue
      (all [optional (literal "\""), several word, optional (literal "\"")]))]

def bracket : Rule := .named .bracket (charIn "[]\x7b\x7d()")

def grouped (group separator : Rule) (count : Nat) : Rule :=
  .seq (times (count - 1) (.seq group separator)) group

def octets : Rule := grouped (upTo 3 digit) (literal ".") 4

def colonGroups : Rule :=
  .seq (upTo 7 (all [upTo 4 hex, literal ":", optional (literal ":")])) (upTo 4 hex)

/-- An address of hardware by pairs of digits, or by fours between dots. -/
def hardware (pairs fours : Nat) : Rule :=
  any [grouped (upTo 2 hex) (literal "-") pairs, grouped (upTo 2 hex) (literal ":") pairs,
    grouped (times 4 hex) (literal ".") fours]

def uuid : Rule :=
  all [times 8 hex, literal "-", times 4 hex, literal "-", times 4 hex, literal "-",
    times 4 hex, literal "-", times 12 hex]

def keyword (mark : Mark) (text : String) : Rule := all [edge, .named mark (literal text), edge]

def sign : Rule := charIn "-+"

def decimal : Rule := all [several digit, optional (literal "."), many digit]

def shortExponent : Rule :=
  optional (all [literal "e", optional sign, .again true 1 none anyDigit])

def longExponent : Rule := optional (all [literal "e", optional sign, several anyDigit])

def complexNumber : Rule :=
  all [notAfter isWord, optional (literal "-"), decimal, shortExponent,
    optional (all [sign, decimal, longExponent]), literal "j"]

def number : Rule :=
  .alt (all [notAfter isWord, optional (literal "-"), decimal, shortExponent, edge])
    (.seq (literal "0x") (many hex))

def pathName : Rule := wordOr "-._+"

def path : Rule :=
  .seq (.named .path (all [noEdge, many (.seq (literal "/") (several pathName)), literal "/"]))
    (.named .fileName (many pathName))

def quotedBy (quote : String) : Rule :=
  all [optional (literal "b"), literal quote, few inLine, notAfter (· == '\\'), literal quote]

def quotation : Rule :=
  .seq (notAfter fun c => c == '\\' || isWord c)
    (.named .quotation (any (["'''", "'", "\"\"\"", "\""].map quotedBy)))

def isUrlChar (c : Char) : Bool :=
  isAsciiDigit c || isAsciiLetter c || "-$_+!\x60(),.?/;:&=%#~@".toList.contains c

def url : Rule :=
  .named .url (all [any (["file", "https", "http", "ws", "wss"].map literal), literal "://",
    many (.one isUrlChar)])

def value : Rule :=
  any [.named .address octets, .named .address colonGroups, .named .address (hardware 8 4),
    .named .address (hardware 6 3), .named .uuid uuid,
    .seq (.named .call (few (wordOr "."))) (literal "("),
    keyword .truth "True", keyword .falsehood "False", keyword .nothing "None",
    .named .ellipsis (literal "..."), .named .number complexNumber, .named .number number,
    path, quotation, url]

def rules : List Rule := [tag, assignment, bracket, value]

def stretches (text : List Char) : List Stretch :=
  let parts := rules.flatMap fun rule => rule.partsIn text
  (parts.filter fun p => p.start < p.stop).map fun p => ⟨p.start, p.stop, p.name.style⟩

end Highlight

end CodeAtlas.Command
