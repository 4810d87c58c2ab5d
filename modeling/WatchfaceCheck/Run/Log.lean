import WatchfaceCheck.Log
import WatchfaceCheck.Settings
namespace WatchfaceCheck

open Text

namespace Config

def log (files : Files) (explicit : Option Path) (directory : Path) :
    Except ConfigWarning Config → List LogEntry
  | .error _ => []
  | .ok _ =>
    if isSought files explicit directory then
      [.info ("config: " ++ (path explicit directory).text)]
    else []

end Config

namespace StagedSource

def description : StagedSource → String
  | .script p => "Input(" ++ quoted p.text ++ ")"
  | .declarations p => "Definition(" ++ quoted p.text ++ ")"
  | .bundled => "BundledDefinition"

end StagedSource

namespace Workspace

def stagingLog (files : Files) (scratch : Except FileError Path) (inputs definitions : List Path) :
    List LogEntry :=
  match plan files inputs definitions, scratch with
  | .ok (scripts, declarations), .ok path =>
    .info ("staging workspace in " ++ path.text)
      :: ((scripts.map StagedFile.script ++ declarations).takeWhile
          (isCopyable files)).map fun staged =>
        .debug ("staged " ++ staged.source.description ++ " as " ++ staged.name)
  | _, _ => []

def log (w : Workspace) : List LogEntry :=
  .info ("workspace: " ++ w.directory.path.text)
    :: w.files.map fun staged =>
      .info ("staged " ++ staged.name ++ " (" ++ staged.source.description ++ ")")

end Workspace

namespace Toolchain

def log (tools : Toolchain) : List LogEntry :=
  [.info ("node: " ++ tools.node.text), .info ("typescript: " ++ tools.typescript.text)]

end Toolchain

namespace Bridge

def log (host : Host) (tools : Toolchain) (question : Question) : List LogEntry :=
  match prepare host question with
  | .error _ => []
  | .ok _ => [.debug ("bridge request: " ++ (request tools.typescript question).compact)]

end Bridge

namespace Snapshot

def firstMentions (program : Snapshot) : List (Phase × String) :=
  (program.findings.filterMap fun finding =>
    finding.2.file.map fun file => (finding.1, file)).eraseDupsBy fun one other =>
      one.2 == other.2

def phaseLog (program : Snapshot) (indexes : LineIndexes) (mentions : List (Phase × String))
    (phase : Phase) : List LogEntry :=
  .info (phase.name ++ " diagnostics: " ++ toString (program.diagnostics phase).length)
    :: (mentions.filter (·.1 == phase)).map fun mention =>
      .debug ("built line index for " ++ mention.2 ++ " ("
        ++ toString ((indexes.find? mention.2).elim 0 LineIndex.lineCount) ++ " lines)")

def log (program : Snapshot) (indexes : LineIndexes) : List LogEntry :=
  .info ("checker reported " ++ toString program.size ++ " diagnostics")
    :: Phase.all.flatMap (program.phaseLog indexes program.firstMentions)

end Snapshot

namespace Report

-- Diagnostics are noted as they are passed over, so none behind one that breaks the report off.
def suppressionLog (suppression : Suppression) (names : NameMap) (found : List Located) :
    List LogEntry :=
  let isSuppressed (one : Located) := suppression.suppresses one.phase one.diagnostic
  let reached := found.takeWhile fun one =>
    isSuppressed one || (one.messageItems names).all ReportItem.fits
  (reached.filter isSuppressed).map fun one =>
    .debug ("suppressed TS" ++ toString one.diagnostic.code.toNat ++ " at "
      ++ (one.location names).text)

end Report

namespace Tally

def log (tally : Tally) : List LogEntry :=
  [.info (toString tally.total ++ " nodes rendered: " ++ tally.summary)]

end Tally

end WatchfaceCheck
