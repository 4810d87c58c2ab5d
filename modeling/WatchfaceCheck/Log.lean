import WatchfaceCheck.Text.Escape
namespace WatchfaceCheck

open Text

inductive LogLevel where
  | fault
  | info
  | debug
deriving DecidableEq, Repr

namespace LogLevel

def rank : LogLevel → Nat
  | .fault => 0
  | .info => 1
  | .debug => 2

end LogLevel

structure LogEntry where
  level : LogLevel
  text : String
deriving DecidableEq, Repr

namespace LogEntry

def fault (text : String) : LogEntry := ⟨.fault, text⟩

def info (text : String) : LogEntry := ⟨.info, text⟩

def debug (text : String) : LogEntry := ⟨.debug, text⟩

def isHeard (verbosity : Nat) (entry : LogEntry) : Bool := entry.level.rank ≤ verbosity

def render (entry : LogEntry) : String := forScreen entry.text ++ "\n"

end LogEntry

end WatchfaceCheck
