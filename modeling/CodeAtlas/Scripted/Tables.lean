import CodeAtlas.Client
import CodeAtlas.Disk
import CodeAtlas.Scripted.Names

namespace CodeAtlas.Scripted

structure Tables where
  lookup : Json
  keyField : String
  supertypes : Json
  subtypes : Json
  implementation : Json
  symbols : Json

namespace Tables

def entry (table : Json) (key : Option String) : Json :=
  match key.bind table.get? with
  | some reply => reply
  | none => (table.get? "*").getD .null

def textOf : Option Json → Option String
  | some (.text s) => some s
  | _ => none

def itemKey (t : Tables) (params : Json) : Option String :=
  textOf ((params.get? "item").bind (Json.get? t.keyField))

def documentKey (params : Json) : Option String :=
  textOf ((params.get? "textDocument").bind (Json.get? "uri"))

def placeKey (params : Json) : Option String := do
  let uri ← documentKey params
  let position ← params.get? "position"
  let line ← position.get? "line"
  let character ← position.get? "character"
  return uri ++ "#" ++ line.display ++ ":" ++ character.display

/-- The scripted reply to a request; methods without a table get none. -/
def reply (t : Tables) (method : String) (params : Json) : Json :=
  if method ∈ CodeAtlas.Lookup.methods then t.lookup
  else if method = Client.supertypesMethod then entry t.supertypes (t.itemKey params)
  else if method = Client.subtypesMethod then entry t.subtypes (t.itemKey params)
  else if method = Client.implementationMethod then entry t.implementation (placeKey params)
  else if method = Client.outlineMethod then entry t.symbols (documentKey params)
  else .null

end Tables

/-- The tables, whether the server runs, and the files it and the client see. -/
structure Stage where
  tables : Tables
  present : Bool
  running : Bool
  capabilities : Json
  disk : Disk

namespace Stage

def errorMark : String := "$error"

def outageMark : String := "$unavailable"

def answer (method : String) (reply : Json) : Except Failure Json :=
  match reply.get? errorMark, reply.get? outageMark with
  | some e, _ =>
    .error (.rejected method (((e.get? "code").getD .null).orElse (.int 0))
      (((e.get? "message").getD .null).orElse (.text "")) ((e.get? "data").getD .null))
  | none, some text => .error (.unavailable (.announced text.display))
  | none, none => .ok reply

def world (env : Environment) (cwd : List String) : World Stage where
  isRunning s := s.present && s.running
  capabilities s := s.capabilities
  request method params s := ⟨answer method (s.tables.reply method params), [], s⟩
  notify _ _ s := ⟨.ok (), [], s⟩
  readFile p s := (s.disk.read cwd p, s)
  absolute p := p.normalise env cwd

end Stage

end CodeAtlas.Scripted
