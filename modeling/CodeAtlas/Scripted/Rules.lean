import CodeAtlas.Wire.Connection

namespace CodeAtlas.Scripted

/-- An action of a rule. Replies take the number of the message that
provoked them. -/
inductive Action
  | reply (result : Json)
  | replyError (error : Json)
  | send (message : Json)
  | raw (bytes : List UInt8)
  | close
  | exit (code : Int)

def Action.act (id : Json) : Action → Wire.Act
  | .reply result => .emit (Wire.encode (Wire.answer id result))
  | .replyError error => .emit (Wire.encode (Wire.errorAnswer id error))
  | .send message => .emit (Wire.encode message)
  | .raw bytes => .emit bytes
  | .close => .close
  | .exit code => .leave code

structure Rule where
  method : Json
  refusal : Option String
  actions : List Action

def sameText : Json → Json → Bool
  | .text a, .text b => a == b
  | _, _ => false

def reactTo (rules : List Rule) (message : Json) : Wire.Reaction :=
  let found := (message.get? "method").bind fun method =>
    rules.find? fun r => sameText r.method method
  match found with
  | none => .take []
  | some rule =>
    match rule.refusal with
    | some reason => .refuse reason
    | none => .take (rule.actions.map (Action.act ((message.get? "id").getD .null)))

abbrev Launch := String → Except FileFault Unit

def launching (launch : Launch) (command : List String) : Except FileFault Unit :=
  launch (command.headD "")

def followRules (launch : Launch) (rules : List Rule) (processId : Nat) : Wire.Behaviour :=
  ⟨fun _ => launching launch, fun _ _ message => reactTo rules message, processId⟩

end CodeAtlas.Scripted
