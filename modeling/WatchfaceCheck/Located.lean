import WatchfaceCheck.LineIndex
import WatchfaceCheck.Snapshot
namespace WatchfaceCheck

structure Located where
  phase : Phase
  diagnostic : Diagnostic
  position : Option Position
deriving DecidableEq, Repr

namespace LineIndexes

def addFile (program : Snapshot) (indexes : LineIndexes) (file : String) : LineIndexes :=
  indexes.add file ((program.sourceText? file).getD "")

def addProgram (indexes : LineIndexes) (program : Snapshot) : LineIndexes :=
  (program.findings.filterMap fun finding => finding.2.file).foldl (addFile program) indexes

def position? (indexes : LineIndexes) (d : Diagnostic) : Option Position := do
  let file ← d.file
  let index ← indexes.find? file
  return index.position d.start

def addFileOf (program : Snapshot) (indexes : LineIndexes) (d : Diagnostic) : LineIndexes :=
  d.file.elim indexes (addFile program indexes)

end LineIndexes

namespace Snapshot

-- Diagnostics of a program one after the other: a file is indexed when the first diagnostic that
-- points into it is reached, and stays so.
def collectFrom (program : Snapshot) (indexes : LineIndexes) :
    List (Phase × Diagnostic) → LineIndexes × List Located
  | [] => (indexes, [])
  | finding :: others =>
    let reached := LineIndexes.addFileOf program indexes finding.2
    let later := collectFrom program reached others
    (later.1, ⟨finding.1, finding.2, LineIndexes.position? reached finding.2⟩ :: later.2)

def collect (program : Snapshot) (indexes : LineIndexes) : LineIndexes × List Located :=
  program.collectFrom indexes program.findings

def collectEach (indexes : LineIndexes) : List Snapshot → List (LineIndexes × List Located)
  | [] => []
  | program :: others =>
    let collected := program.collect indexes
    collected :: collectEach collected.1 others

def locate (program : Snapshot) (indexes : LineIndexes) : List Located :=
  program.findings.map fun finding =>
    ⟨finding.1, finding.2, LineIndexes.position? indexes finding.2⟩

end Snapshot

end WatchfaceCheck
