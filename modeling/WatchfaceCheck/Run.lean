import WatchfaceCheck.Run.Log
namespace WatchfaceCheck

inductive Notice where
  | logged (entry : LogEntry)
  | printed (text : String)
deriving DecidableEq, Repr

namespace Notice

def isShown (verbosity : Nat) : Notice → Bool
  | .logged entry => entry.isHeard verbosity
  | .printed _ => true

def text : Notice → String
  | .logged entry => entry.render
  | .printed text => text

end Notice

-- A run that breaks off has no status of its own.
structure Run where
  status : Option ExitStatus
  output : String := ""
  notices : List Notice := []
deriving DecidableEq, Repr

namespace Run

def brokenCode : Nat := 101

def code (run : Run) : Nat := run.status.elim brokenCode ExitStatus.code

def help : Run := { status := some .success, output := CommandLine.helpText }

def version : Run := { status := some .success, output := CommandLine.versionText }

def misused (explanation : String) : Run where
  status := some .usage
  output := "\n" ++ CommandLine.helpText
  notices := [.printed explanation]

def complaint (palette : Palette) (e : CheckError) : String :=
  palette.paint .error "Error:" ++ " " ++ e.message ++ "\n"

def faulted (palette : Palette) (e : CheckError) : Run where
  status := some .fault
  notices := [.logged (.fault e.message), .printed (complaint palette e)]

def unequipped (missing : MissingTool) : Run where
  status := some .fault
  notices := [.logged (.fault missing.summary), .printed (missing.message ++ "\n")]

def failed (palette : Palette) (e : CheckError) : Run :=
  if e.isUsage then misused (complaint palette e)
  else match e with
    | .toolMissing missing => unequipped missing
    | e => faulted palette e

def closing (palette : Palette) (elapsed : String) (judgement : Judgement) : String :=
  "\n" ++ judgement.tally.summary ++ " " ++ palette.paint .muted ("(" ++ elapsed ++ ")")
    ++ "\n" ++ judgement.verdict.message palette ++ "\n"

-- Where nothing was judged, the part of the report that was written is all there is. What the
-- system says of the break is left out.
def completed (palette : Palette) (elapsed : String) (outcome : Outcome) : Run where
  status := outcome.judgement.map fun judgement => judgement.verdict.exitStatus
  output := outcome.report.render palette
  notices := outcome.judgement.toList.flatMap fun judgement =>
    judgement.tally.log.map .logged ++ [.printed (closing palette elapsed judgement)]

def after (notices : List Notice) (run : Run) : Run :=
  { run with notices := notices ++ run.notices }

def logging (log : List LogEntry) (run : Run) : Run := run.after (log.map .logged)

def ofProgram (elapsed : String) (settings : Settings) (names : NameMap) (program : Snapshot) :
    Run :=
  let indexes := LineIndexes.addProgram .empty program
  let found := program.locate indexes
  let outcome := Outcome.ofLocated settings.check names indexes found
  (completed settings.palette elapsed outcome).logging
    (program.log indexes
      ++ Report.suppressionLog settings.check.report.suppression names found)

def ofQuestion (host : Host) (elapsed : String) (settings : Settings) (workspace : Workspace)
    (tools : Toolchain) : Host × Run :=
  let question := workspace.question settings.check.compiler
  let asked := Bridge.ask host tools question
  (asked.1, (match asked.2 with
    | .error e => failed settings.palette e
    | .ok program => ofProgram elapsed settings workspace.names program).logging
    (Bridge.log host tools question))

def ofToolchain (host : Host) (elapsed : String) (settings : Settings) (workspace : Workspace)
    (tools : Toolchain) : Host × Run :=
  (match host.reach workspace.directory.path with
    | .error e => (host, failed settings.palette (.io e))
    | .ok () => ofQuestion host elapsed settings workspace tools).map id (Run.logging tools.log)

def ofWorkspace (host : Host) (elapsed : String) (settings : Settings) (workspace : Workspace) :
    Host × Run :=
  (match settings.tools.locate host with
    | (left, .error missing) => (left, failed settings.palette (.toolMissing missing))
    | (left, .ok tools) => ofToolchain left elapsed settings workspace tools).map id
    (Run.logging workspace.log)

-- No tool is looked for before the files are staged.
def ofSettings (host : Host) (elapsed : String) (inputs : List Path) (settings : Settings) :
    Host × Run :=
  (match settings.stage host inputs with
    | .error e => (host, failed settings.palette e)
    | .ok workspace =>
      match host.store workspace.directory with
      | .error e => (host, failed settings.palette (.io e))
      | .ok stored => ofWorkspace stored elapsed settings workspace).map id
    (Run.logging (Workspace.stagingLog host.files host.scratch inputs settings.definitions))

def warnings (palette : Palette) : Except ConfigWarning Config → List Notice
  | .error warning => [.printed (warning.message palette ++ "\n")]
  | .ok _ => []

def ofConfig (host : Host) (directory : Path) (elapsed : String) (arguments : Arguments) :
    Host × Run :=
  let loaded := arguments.loadConfig host.files directory
  (ofSettings host elapsed arguments.files
    (arguments.settings (Config.orDefault loaded).check directory)).map id fun run =>
    (run.logging (Config.log host.files arguments.config directory loaded)).after
      (warnings arguments.palette loaded)

def ofArguments (host : Host) (directory : Path) (elapsed : String) (arguments : Arguments) :
    Host × Run :=
  match host.reach directory with
  | .error e => (host, failed arguments.palette (.io e))
  | .ok () => ofConfig host directory elapsed arguments

-- Entries of the log are dropped unless they are asked for; faults always are.
def heard (verbosity : Nat) (run : Run) : Run :=
  { run with notices := run.notices.filter (Notice.isShown verbosity) }

def ofCommandLine (host : Host) (directory : Path) (elapsed : String) :
    CommandLine → Host × Run
  | .help => (host, help)
  | .version => (host, version)
  | .check arguments =>
    (ofArguments host directory elapsed arguments).map id (heard arguments.verbosity)

def ofWords (host : Host) (directory : Path) (elapsed : String) (words : List String) :
    Host × Run :=
  match CommandLine.read words with
  | .error e => (host, misused ("error: " ++ e.message ++ "\n"))
  | .ok commandLine => ofCommandLine host directory elapsed commandLine

def complaints (run : Run) : String := String.join (run.notices.map Notice.text)

end Run

end WatchfaceCheck
