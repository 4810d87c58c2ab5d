import WatchfaceCheck.Files
namespace WatchfaceCheck

open Text

structure Invocation where
  program : Path
  arguments : List String
  directory : Option Path := none
  input : Bytes := []

-- The system takes texts up to their first NUL, so none may hold one.
def Invocation.holdsNul (asked : Invocation) : Bool :=
  (asked.program.text :: asked.arguments).any fun text => text.toList.contains '\x00'

inductive Ending where
  | exited (code : Nat)
  | killed
deriving DecidableEq, Repr

namespace Ending

def isSuccess (ending : Ending) : Bool := ending == .exited 0

def code : Ending → Int
  | .exited code => code
  | .killed => -1

end Ending

structure Completed where
  ending : Ending
  output : Bytes := []
  complaint : Bytes := []
deriving DecidableEq, Repr

structure Environment where
  searchPath : Option String := none
  node : Option String := none
  typescript : Option String := none
  home : Option String := none
deriving DecidableEq, Repr

namespace Environment

def entries (searchPath : String) : List Path :=
  (split ':' searchPath.toList).map fun entry => ⟨String.ofList entry⟩

-- The directories in which programs stand. An empty entry of the search path is the directory in
-- which the run was started.
def directories (environment : Environment) : List Path :=
  environment.searchPath.elim [] entries

def fromHome (environment : Environment) (directory : Path) : Path :=
  match directory.anchor, directory.steps with
  | .unstated, ['~'] :: steps =>
    steps.foldl (fun above step => above.join ⟨String.ofList step⟩) ⟨environment.home.getD ""⟩
  | _, _ => directory

def commandPaths (environment : Environment) (name : Path) : List Path :=
  environment.directories.map fun directory => (environment.fromHome directory).join name

end Environment

-- What processes change is the state; everything else stays as it is. A directory may be gone when
-- a run is to stand in it, and writing files may fail.
structure Host where
  State : Type
  state : State
  filesIn : State → Files
  environment : Environment
  scratch : Except FileError Path
  reachIn : State → Path → Except FileError Unit
  storeIn : State → Directory → Except FileError State
  launchIn : State → Invocation → State × Except FileError Completed

namespace Host

def files (host : Host) : Files := host.filesIn host.state

def command? (host : Host) (name : Path) : Option Path :=
  (host.environment.commandPaths name).find? host.files.isExecutable

def reach (host : Host) (directory : Path) : Except FileError Unit :=
  host.reachIn host.state directory

def store (host : Host) (directory : Directory) : Except FileError Host :=
  (host.storeIn host.state directory).map fun state => { host with state }

-- The host that a process leaves, and how the process went. What cannot be handed over whole is
-- not launched.
def start (host : Host) (asked : Invocation) : Host × Except FileError Completed :=
  if asked.holdsNul then (host, .error .nulInCommand)
  else
    let left := host.launchIn host.state asked
    ({ host with state := left.1 }, left.2)

end Host

end WatchfaceCheck
