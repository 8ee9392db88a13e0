import CodeAtlas.Command.Run

namespace CodeAtlas.Main

def noServers : Wire.Behaviour where
  launch _ command := .error (.denied (command.headD ""))
  react _ _ _ := .take []
  processId := 0

def knownVariables : List String :=
  ["HOME", Settings.serverVariable, Settings.workspaceVariable, Settings.methodVariable,
    Settings.resolveVariable, Settings.depthVariable, Settings.timeoutVariable,
    Command.Palette.compatibleVariable, Command.Palette.forceVariable,
    Command.Palette.refuseVariable, Command.Palette.terminalVariable]

def readEnvironment : IO Environment :=
  knownVariables.filterMapM fun name => do return (← IO.getEnv name).map fun value => (name, value)

def readIfThere (name : String) : IO (Option (List UInt8)) := do
  try return some (← IO.FS.readBinFile name).toList
  catch _ => return none

/-- The disk as far as a command line can see it: the environment file and
the files that its words name. -/
def readDisk (cwd : List String) (names : List String) : IO Disk :=
  names.foldlM (fun disk name => do
    match ← readIfThere name with
    | some content => return (disk.put cwd (Path.ofString name) content).toOption.getD disk
    | none => return disk) (Disk.empty cwd)

end CodeAtlas.Main

open CodeAtlas Main in
def main (words : List String) : IO UInt32 := do
  let cwd := (Path.ofString (← IO.currentDir).toString).segments
  let disk ← readDisk cwd (Command.envFileName :: words)
  let start : Command.Workplace := ⟨← readEnvironment, cwd, disk, none⟩
  let (report, _) := Command.run noServers 0 words start
  IO.print report.out
  IO.eprint report.err
  match report.status with
  | .ok code => return UInt32.ofNat code.toNat
  | .error e =>
    IO.eprintln e.message
    return 1
