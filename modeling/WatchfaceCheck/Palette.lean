import WatchfaceCheck.Severity
namespace WatchfaceCheck

inductive Tone where
  | error
  | warning
  | info
  | success
  | emphasis
  | muted
deriving DecidableEq, Repr

namespace Tone

def parameter : Tone → String
  | .error => "31"
  | .warning => "33"
  | .info => "36"
  | .success => "32"
  | .emphasis => "1"
  | .muted => "90"

end Tone

namespace Severity

def tone : Severity → Tone
  | .info => .info
  | .warning => .warning
  | .error => .error

end Severity

structure Palette where
  color : Bool
deriving DecidableEq, Repr

namespace Palette

def plain : Palette := ⟨false⟩

def control (parameter : String) : String := "\x1b[" ++ parameter ++ "m"

def paint (palette : Palette) (tone : Tone) (text : String) : String :=
  if palette.color then control tone.parameter ++ text ++ control "0" else text

def label (palette : Palette) (severity : Severity) : String :=
  palette.paint severity.tone severity.label

end Palette

end WatchfaceCheck
