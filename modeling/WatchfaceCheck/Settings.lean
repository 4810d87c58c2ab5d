import WatchfaceCheck.Check
import WatchfaceCheck.CommandLine
import WatchfaceCheck.Config
namespace WatchfaceCheck

structure Settings where
  definitions : List Path
  check : CheckOptions
  tools : ToolRequest
deriving DecidableEq, Repr

namespace CheckConfig

def suppression (config : CheckConfig) : Suppression :=
  if config.suppressObjectLiteralProperty then .objectLiteralProperty else .nothing

end CheckConfig

namespace Arguments

def reportOptions (arguments : Arguments) (config : CheckConfig) : ReportOptions where
  pretty := arguments.pretty || config.pretty
  color := arguments.color
  suppression := config.suppression

def palette (arguments : Arguments) : Palette := ⟨arguments.color⟩

-- Declarations on the command line replace those of the file; tools are searched for from the
-- directory where the run was started.
def settings (arguments : Arguments) (config : CheckConfig) (directory : Path) : Settings where
  definitions :=
    if arguments.definitions.isEmpty then config.definitions else arguments.definitions
  check :=
    { report := arguments.reportOptions config
      maxWarnings := arguments.maxWarnings.or config.maxWarnings }
  tools :=
    { node := config.node
      typescript := config.typescript
      searchRoot := directory }

def loadConfig (arguments : Arguments) (files : Files) (directory : Path) :
    Except ConfigWarning Config :=
  Config.load files arguments.config directory

end Arguments

namespace Settings

def palette (settings : Settings) : Palette := settings.check.report.palette

def stage (settings : Settings) (host : Host) (inputs : List Path) : Except CheckError Workspace :=
  Workspace.stage host.files host.scratch inputs settings.definitions settings.check.compiler

end Settings

end WatchfaceCheck
