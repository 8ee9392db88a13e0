import CodeAtlas.Settings

namespace CodeAtlas.Settings

def commandField : String := "server_command"

def workspaceField : String := "workspace"

def methodField : String := "type_hierarchy_method"

def resolveField : String := "type_hierarchy_resolve"

def depthField : String := "max_call_depth"

def timeoutField : String := "shutdown_timeout"

def fieldNames : List String :=
  [commandField, workspaceField, methodField, resolveField, depthField, timeoutField]

def workspaceOf : Json → Except Failure (Option Path)
  | .text s => .ok (some (Path.ofString s))
  | .unpaired points => .ok (some (Path.ofString (Json.unpaired points).display))
  | _ => .error .wrongKind

def commandOf (given : Json) : Except Failure (List String) :=
  if given.truthy then
    match given with
    | .list items => .ok (items.map Json.display)
    | value => .ok [value.display]
  else .error (.refused .emptyCommand)

def methodOf : Json → Except Failure String
  | .text s => if s ∈ Lookup.methods then .ok s else .error (unknownMethod (.text s))
  | value => .error (unknownMethod value)

def unbounded : Int := Binary64.twoTo 63

def limitOf : Json → Except Failure Int
  | .int n => .ok n
  | .bool b => .ok (if b then 1 else 0)
  | .real x => .ok (x.ceiling?.getD unbounded)
  | _ => .error .wrongKind

def isBelowZero : Json → Bool
  | .int n => decide (n < 0)
  | .real x => x.isNonPositive && !x.isZero
  | _ => false

def depthOf (given : Json) : Except Failure Int := do
  let limit ← limitOf given
  if isBelowZero given then throw (.refused .negativeDepth)
  return limit

def timeoutOf : Json → Seconds
  | .real x => .real x
  | .int n => .whole n
  | value => .whole (if value.truthy then 1 else 0)

def ofFields (fields : List (String × Json)) : Except Failure Settings := do
  if fields.any fun f => !fieldNames.contains f.1 then throw .wrongKind
  let workspace ← (fields.lookup workspaceField).elim (.ok none) workspaceOf
  let command ← (fields.lookup commandField).elim (.ok standard.command) commandOf
  let method ← methodOf ((fields.lookup methodField).getD (.text standard.method))
  let depth ← depthOf ((fields.lookup depthField).getD (.int standard.maxDepth))
  return {
    command, workspace, method
    resolveLevels := (fields.lookup resolveField).getD standard.resolveLevels
    maxDepth := depth
    timeout := (fields.lookup timeoutField).elim standard.timeout timeoutOf }

end CodeAtlas.Settings
