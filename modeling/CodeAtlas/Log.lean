namespace CodeAtlas

inductive Level
  | debug
  | info
  | warning
  | error
  deriving DecidableEq, Repr

def Level.name : Level → String
  | .debug => "DEBUG"
  | .info => "INFO"
  | .warning => "WARNING"
  | .error => "ERROR"

inductive Speaker
  | command
  | client
  | connection
  | types
  | calls
  deriving DecidableEq, Repr

def Speaker.name : Speaker → String
  | .command => "lspgraph.cli.session"
  | .client => "lspgraph.hierarchy_client"
  | .connection => "lspgraph.lsp_session"
  | .types => "lspgraph.type_graph"
  | .calls => "lspgraph.call_graph"

structure LogEntry where
  level : Level
  speaker : Speaker
  message : String
  deriving DecidableEq, Repr

namespace LogEntry

def isDebug (e : LogEntry) : Bool := e.level = .debug

def toLine (e : LogEntry) : String := e.level.name ++ " " ++ e.speaker.name ++ ": " ++ e.message

end LogEntry

end CodeAtlas
