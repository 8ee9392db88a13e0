import CodeAtlas.Json

namespace CodeAtlas.Wire

def protocolVersion : String := "2.0"

def request (id : Nat) (method : String) (params : Json) : Json :=
  .object [("jsonrpc", .text protocolVersion), ("id", .int id),
    ("method", .text method), ("params", params)]

def notification (method : String) (params : Json) : Json :=
  .object [("jsonrpc", .text protocolVersion), ("method", .text method), ("params", params)]

def emptyAnswer (id : Json) : Json :=
  .object [("jsonrpc", .text protocolVersion), ("id", id), ("result", .null)]

def answer (id result : Json) : Json :=
  .object [("jsonrpc", .text protocolVersion), ("id", id), ("result", result)]

def errorAnswer (id error : Json) : Json :=
  .object [("jsonrpc", .text protocolVersion), ("id", id), ("error", error)]

def static : String × Json := ("dynamicRegistration", .bool false)

def clientCapabilities : Json :=
  .object [
    ("textDocument", .object [
      ("synchronization", .object [static]),
      ("typeHierarchy", .object [static]),
      ("implementation", .object [static, ("linkSupport", .bool true)]),
      ("documentSymbol", .object [static, ("hierarchicalDocumentSymbolSupport", .bool true)])]),
    ("workspace", .object [("configuration", .bool false)]),
    ("window", .object [("workDoneProgress", .bool false)])]

def initializeParams (processId : Nat) (rootUri rootName : String) : Json :=
  .object [("processId", .int processId), ("rootUri", .text rootUri),
    ("workspaceFolders", .list [.object [("uri", .text rootUri), ("name", .text rootName)]]),
    ("capabilities", clientCapabilities)]

end CodeAtlas.Wire
