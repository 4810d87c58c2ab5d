import WatchfaceCheck.Diagnostic
import WatchfaceCheck.Text.Search
namespace WatchfaceCheck

inductive Severity where
  | info
  | warning
  | error
deriving DecidableEq, Repr

namespace Severity

def label : Severity → String
  | .info => "INFO"
  | .warning => "WARN"
  | .error => "ERROR"

end Severity

namespace Stub

-- The type that the declarations give to what the watch does not implement.
def marker : String := "IsNotImplementedInRockyYet"

def explanation : String :=
  "This API is declared for Rocky.js but is not implemented by the runtime yet."

end Stub

namespace Message

def mentionsStub (m : Message) : Bool := Text.mentions Stub.marker m.text

def severity (phase : Phase) (m : Message) : Severity :=
  if m.mentionsStub then .error
  else match phase, m.category with
    | .syntactic, _ => .error
    | _, .suggestion => .info
    | _, .message => .info
    | _, .warning => .warning
    | _, .error => .warning

-- A message about a stub is replaced, for its own words are about types.
def shownText (m : Message) : String := if m.mentionsStub then Stub.explanation else m.text

end Message

namespace Diagnostic

def mentionsStub (d : Diagnostic) : Bool := d.messages.any Message.mentionsStub

end Diagnostic

inductive Suppression where
  | nothing
  | objectLiteralProperty
deriving DecidableEq, Repr

namespace Suppression

def missingProperty : UInt32 := 2339

def literalType : String := "on type '\x7b"

def suppresses (policy : Suppression) (phase : Phase) (d : Diagnostic) : Bool :=
  match policy with
  | .nothing => false
  | .objectLiteralProperty =>
    phase == .semantic && d.code == missingProperty && Text.mentions literalType d.headText
      && !d.mentionsStub

end Suppression

end WatchfaceCheck
