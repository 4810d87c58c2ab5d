import WatchfaceCheck.Report
namespace WatchfaceCheck

inductive ExitStatus where
  | success
  | errors
  | warningsExceeded
  | usage
  | fault
deriving DecidableEq, Repr

namespace ExitStatus

def all : List ExitStatus := [.success, .errors, .warningsExceeded, .usage, .fault]

def name : ExitStatus → String
  | .success => "Success"
  | .errors => "Errors"
  | .warningsExceeded => "WarningsExceeded"
  | .usage => "Usage"
  | .fault => "Fault"

def code : ExitStatus → Nat
  | .success => 0
  | .errors => 1
  | .warningsExceeded => 2
  | .usage => 3
  | .fault => 4

end ExitStatus

inductive Verdict where
  | clean
  | warnings (count : Nat)
  | tooManyWarnings (count limit : Nat)
  | errors (count : Nat)
deriving DecidableEq, Repr

namespace Verdict

-- Errors decide; warnings do only where a limit is set and passed.
def ofTally (tally : Tally) (limit : Option Nat) : Verdict :=
  if 0 < tally.errors then .errors tally.errors
  else if tally.warnings = 0 then .clean
  else match limit with
    | none => .warnings tally.warnings
    | some limit =>
      if limit < tally.warnings then .tooManyWarnings tally.warnings limit
      else .warnings tally.warnings

def exitStatus : Verdict → ExitStatus
  | .clean => .success
  | .warnings _ => .success
  | .tooManyWarnings _ _ => .warningsExceeded
  | .errors _ => .errors

def advice (palette : Palette) : String :=
  palette.paint .emphasis "Note:" ++ " Lines marked " ++ palette.label .warning
    ++ " may work at runtime; the checker could not prove them correct."

def message (palette : Palette) : Verdict → String
  | .clean => palette.paint .success "No problems found."
  | .warnings _ => advice palette
  | .tooManyWarnings count limit =>
    advice palette ++ "\n" ++ palette.paint .warning s!"Too many warnings ({count} > max {limit})"
  | .errors _ =>
    palette.paint .emphasis "Hint:" ++ " Lines marked " ++ palette.label .error
      ++ " will most likely fail on the watch. Fix them before deploying."

end Verdict

namespace Tally

def counted (n : Nat) (noun : String) : String :=
  toString n ++ " " ++ noun ++ (if n = 1 then "" else "s")

def summary (tally : Tally) : String :=
  counted tally.errors "error" ++ ", " ++ counted tally.warnings "warning"

end Tally

end WatchfaceCheck
