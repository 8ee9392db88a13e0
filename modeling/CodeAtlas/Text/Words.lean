import CodeAtlas.Failure

namespace CodeAtlas.Text.Words

inductive Mode
  | between
  | word
  | quoted (quote : Char)
  | escaped (inside : Option Char)

def isSeparator (c : Char) : Bool := c == ' ' || c == '\t' || c == '\r' || c == '\n'

def close (token : List Char) (wasQuoted : Bool) (rest : List String) : List String :=
  if token.isEmpty && !wasQuoted then rest else String.ofList token :: rest

inductive Outside
  | quote
  | escape
  | separator
  | plain

def outside (c : Char) : Outside :=
  if isSeparator c then .separator
  else if c = '\\' then .escape
  else if c = '\'' ∨ c = '"' then .quote
  else .plain

def splitFrom (mode : Mode) (token : List Char) (wasQuoted : Bool) :
    List Char → Except Refusal (List String)
  | [] =>
    match mode with
    | .between | .word => .ok (close token wasQuoted [])
    | .quoted _ => .error .openQuotation
    | .escaped _ => .error .openEscape
  | c :: rest =>
    match mode with
    | .between | .word =>
      match outside c with
      | .separator => (splitFrom .between [] false rest).map (close token wasQuoted)
      | .escape => splitFrom (.escaped none) token wasQuoted rest
      | .quote => splitFrom (.quoted c) token true rest
      | .plain => splitFrom .word (token ++ [c]) wasQuoted rest
    | .quoted q =>
      if c = q then splitFrom .word token true rest
      else if c = '\\' ∧ q = '"' then splitFrom (.escaped (some q)) token true rest
      else splitFrom (.quoted q) (token ++ [c]) true rest
    | .escaped none => splitFrom .word (token ++ [c]) wasQuoted rest
    | .escaped (some q) =>
      let kept := if c = '\\' ∨ c = q then [c] else ['\\', c]
      splitFrom (.quoted q) (token ++ kept) wasQuoted rest

def split (text : String) : Except Failure (List String) :=
  (splitFrom .between [] false text.toList).mapError .refused

end CodeAtlas.Text.Words
