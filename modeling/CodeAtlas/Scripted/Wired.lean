import CodeAtlas.Scripted.Rules
import CodeAtlas.Scripted.Tables

namespace CodeAtlas.Scripted

def wireErrorMark : String := "$error"

def closeMark : String := "$eof"

structure WiredTables where
  tables : Tables
  greeting : Json
  farewell : Json

namespace WiredTables

def reply (t : WiredTables) (method : String) (params : Json) : Json :=
  if method = "initialize" then t.greeting
  else if method = "shutdown" then t.farewell
  else t.tables.reply method params

def answer (id reply : Json) : List Wire.Act :=
  match reply.get? wireErrorMark, reply.get? closeMark with
  | some e, _ => [.emit (Wire.encode (Wire.errorAnswer id e))]
  | none, some _ => [.close]
  | none, none => [.emit (Wire.encode (Wire.answer id reply))]

def react (t : WiredTables) (message : Json) : Wire.Reaction :=
  match message.get? "method", message.get? "id" with
  | some (.text method), some id =>
    .take (answer id (t.reply method ((message.get? "params").getD .null)))
  | some (.text "exit"), none => .take [.leave 0, .close]
  | _, _ => .take []

def behaviour (t : WiredTables) (launch : Launch) (processId : Nat) : Wire.Behaviour :=
  ⟨fun _ => launching launch, fun _ _ message => t.react message, processId⟩

end WiredTables

end CodeAtlas.Scripted
