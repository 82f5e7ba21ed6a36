import FeatureGen.CommandLine.Run
import FeatureGen.Project.Changes

/-!
# The program

The program works in the directory it is started in.  It takes the parts of the project that a
request needs from the disk, runs the request on them, puts what is new back on the disk and prints
what there is to say.  The system that runs commands is given: for an analysis its package manager
is asked for the outdated packages.
-/

namespace FeatureGen.Disk

/-- The project with what stands at an entry of a directory and below it. -/
partial def loadEntry (p : Project) (path : Path) (entry : IO.FS.DirEntry) : IO Project := do
  let path := path / entry.fileName
  if ← entry.path.isDir then
    (← entry.path.readDir).foldlM (loadEntry · path) (p.ensureDirectories path).1
  else
    return (p.writeFile path (← IO.FS.readBinFile entry.path)).1

/-- The project with what stands at a path and below it. -/
def load (p : Project) (path : Path) : IO Project := do
  let place := (← IO.currentDir) / path.toString
  if ← place.isDir then
    (← place.readDir).foldlM (loadEntry · path) (p.ensureDirectories path).1
  else if ← place.pathExists then
    return (p.writeFile path (← IO.FS.readBinFile place)).1
  else
    return p

/-- Puts a file or a directory on the disk. -/
def store (change : Path × Node) : IO Unit :=
  match change.2 with
  | .directory => IO.FS.createDirAll change.1.toString
  | .file content => IO.FS.writeBinFile change.1.toString content

/-- An empty project in the directory that the program was started in. -/
def start : IO Project := do
  let cwd := Path.ofString (← IO.currentDir).toString
  return { (Project.ensureDirectories ⟨Tree.empty, []⟩ cwd).1 with cwd := cwd.names }

/-- The variables of the environment that count. -/
def environment : IO Environment :=
  Environment.names.filterMapM fun name => do
    return (← IO.getEnv name).map fun value => (name, value)

end FeatureGen.Disk

namespace FeatureGen

/-- What the package manager of a system prints. -/
def outdated (system : Execution.Command → IO Execution.Attempt) (config : Config) :
    IO (Except Execution.Fault Execution.Completion) := do
  let command := Analysis.outdatedCommand config
  return command.outcome (← system command.request)

/-- Runs the program with arguments in a system. -/
def runProgram (system : Execution.Command → IO Execution.Attempt) (arguments : List String) :
    IO UInt32 := do
  let env ← Disk.environment
  let mut p ← Disk.start
  let mut npm : Execution.Completion := {}
  if let .ok request := CommandLine.Request.read arguments then
    if let some path := request.configPath then
      p ← Disk.load p (Path.ofString path)
    if let .ok config := request.config p env then
      p ← config.parts.foldlM Disk.load p
      if request.task.analyzes then
        match ← outdated system config with
        | .ok completion => npm := completion
        | .error fault =>
          IO.eprintln fault.message
          return 1
  let (q, result) := CommandLine.run arguments p env npm
  (p.changes q).forM Disk.store
  match result with
  | .ok outcome =>
    IO.print outcome.stdout
    IO.print outcome.console
    IO.eprint outcome.stderr
    return outcome.exitCode.toUInt32
  | .error fault =>
    IO.eprintln fault.message
    return 1

end FeatureGen
