import WatchfaceCheck.Bridge
import WatchfaceCheck.Located
import WatchfaceCheck.Verdict
import WatchfaceCheck.Workspace
namespace WatchfaceCheck

structure CheckOptions where
  compiler : CompilerOptions := {}
  report : ReportOptions := {}
  maxWarnings : Option UInt64 := none
deriving DecidableEq, Repr

namespace CheckOptions

def limit (options : CheckOptions) : Option Nat := options.maxWarnings.map UInt64.toNat

end CheckOptions

structure Judgement where
  tally : Tally
  verdict : Verdict
deriving DecidableEq, Repr

-- Nothing is judged where the report breaks off.
structure Outcome where
  report : Report
  judgement : Option Judgement
deriving DecidableEq, Repr

namespace Outcome

def ofLocated (options : CheckOptions) (names : NameMap) (indexes : LineIndexes)
    (found : List Located) : Outcome :=
  let report := Report.ofLocated options.report names indexes found
  ⟨report, report.tally?.map fun tally => ⟨tally, Verdict.ofTally tally options.limit⟩⟩

-- A program seen for the first time: its own texts give the positions.
def ofProgram (options : CheckOptions) (names : NameMap) (program : Snapshot) : Outcome :=
  let indexes := LineIndexes.addProgram .empty program
  ofLocated options names indexes (program.locate indexes)

end Outcome

namespace Workspace

def question (w : Workspace) (options : CompilerOptions) : Question :=
  ⟨w.directory, w.fileNames, options⟩

def check (w : Workspace) (checker : Checker) (options : CheckOptions) :
    Except CheckError Outcome :=
  match checker (w.question options.compiler) with
  | .error e => .error e
  | .ok program => .ok (.ofProgram options w.names program)

end Workspace

end WatchfaceCheck
