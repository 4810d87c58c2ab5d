import WatchfaceCheck.Elapsed
import WatchfaceCheck.Run
namespace WatchfaceCheck.Machine

open Text

def fileError : IO.Error → FileError
  | .noFileOrDirectory .. => .notFound
  | .permissionDenied .. => .permissionDenied
  | .invalidArgument _ 36 _ => .nameTooLong
  | e => .other (toString e)

def content (p : Path) : IO Bytes := do return (← IO.FS.readBinFile p.text).toList

-- A program is there if it can be opened; what it consists of does not matter.
def presence (p : Path) : IO Bytes := do
  let _ ← IO.FS.Handle.mk p.text .read
  return []

-- Every regular file counts as executable.
def entry (read : Path → IO Bytes) (p : Path) : IO Entry := do
  if ← (← IO.FS.realPath p.text).isDir then
    return .directory ⟨p, .empty, []⟩
  else
    return .file ⟨← read p, true⟩

def look (read : Path → IO Bytes) (p : Path) : IO (Path × Except FileError Entry) := do
  try
    return (p, .ok (← entry read p))
  catch e =>
    return (p, .error (fileError e))

def known (entries : List (Path × Except FileError Entry)) : Files where
  look p := (entries.lookup p).getD (.error .notFound)

def environment : IO Environment := do
  return {
    searchPath := ← IO.getEnv "PATH"
    node := ← IO.getEnv "ROCKY_LINT_NODE"
    typescript := ← IO.getEnv "ROCKY_LINT_TYPESCRIPT"
    home := ← IO.getEnv "HOME" }

-- No process is started: whatever is asked of the checker, its answer has been given already.
def host (files : Files) (environment : Environment) (answer : Bytes) : Host where
  State := Unit
  state := ()
  filesIn _ := files
  environment
  scratch := .ok ⟨Workspace.directoryNameStart⟩
  reachIn _ path := if path.text.isEmpty then .error .notFound else .ok ()
  storeIn _ _ := .ok ()
  launchIn _ asked :=
    ((), if asked.directory.isSome then .ok { ending := .exited 0, output := answer }
      else .error .notFound)

def directory : IO Path := do
  try
    return ⟨(← IO.currentDir).toString⟩
  catch _ =>
    return ⟨""⟩

def commandPaths (host : Host) (request : ToolRequest) : List Path :=
  let commands := [⟨"node"⟩, ⟨"npm"⟩] ++ request.node.toList
    ++ (host.environment.node.map Path.mk).toList
  commands.flatMap host.environment.commandPaths

def projectPaths (request : ToolRequest) : List Path :=
  request.localPackages.map (fun directory => directory.join ⟨"package.json"⟩)
    ++ (PackageManager.lockFiles.map Prod.fst ++ ["package.json"]).map fun name =>
      request.searchRoot.join ⟨name⟩

def deliver (run : Run) : IO UInt32 := do
  IO.print run.output
  IO.eprint run.complaints
  return UInt32.ofNat run.code

def check (begun : Nat) (directory : Path) (words : List String) (arguments : Arguments) :
    IO Run := do
  let configPath := Config.path arguments.config directory
  let settled := host (known [← look content configPath]) (← environment) []
  let config := Config.orDefault (arguments.loadConfig settled.files directory)
  let settings := arguments.settings config.check directory
  let texts := [configPath] ++ arguments.files ++ settings.definitions
    ++ projectPaths settings.tools
  let read ← texts.mapM (look content)
  let seen ← (commandPaths settled settings.tools).mapM (look presence)
  let answer := (← (← IO.getStdin).readBinToEnd).toList
  let elapsed := Elapsed.text ((← IO.monoNanosNow) - begun)
  return (Run.ofWords (host (known (read ++ seen)) settled.environment answer) directory elapsed
    words).2

end WatchfaceCheck.Machine

open WatchfaceCheck in
def main (words : List String) : IO UInt32 := do
  let begun ← IO.monoNanosNow
  let directory ← Machine.directory
  match CommandLine.read words with
  | .ok (.check arguments) => Machine.deliver (← Machine.check begun directory words arguments)
  | _ =>
    let idle := Machine.host (Machine.known []) (← Machine.environment) []
    Machine.deliver (Run.ofWords idle directory "" words).2
