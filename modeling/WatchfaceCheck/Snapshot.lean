import WatchfaceCheck.Diagnostic
import WatchfaceCheck.Dictionary
namespace WatchfaceCheck

structure Snapshot where
  options : List Diagnostic := []
  global : List Diagnostic := []
  syntactic : List Diagnostic := []
  semantic : List Diagnostic := []
  sources : Dictionary String := .empty

namespace Snapshot

def empty : Snapshot := {}

def diagnostics (s : Snapshot) : Phase → List Diagnostic
  | .options => s.options
  | .global => s.global
  | .syntactic => s.syntactic
  | .semantic => s.semantic

def withDiagnostic (s : Snapshot) (phase : Phase) (d : Diagnostic) : Snapshot :=
  match phase with
  | .options => { s with options := s.options ++ [d] }
  | .global => { s with global := s.global ++ [d] }
  | .syntactic => { s with syntactic := s.syntactic ++ [d] }
  | .semantic => { s with semantic := s.semantic ++ [d] }

def withSource (s : Snapshot) (file text : String) : Snapshot :=
  { s with sources := s.sources.insert file text }

def sourceText? (s : Snapshot) (file : String) : Option String := s.sources.find? file

def findings (s : Snapshot) : List (Phase × Diagnostic) :=
  Phase.all.flatMap fun phase => (s.diagnostics phase).map fun d => (phase, d)

def size (s : Snapshot) : Nat := s.findings.length

def isEmpty (s : Snapshot) : Bool := s.findings.isEmpty

end Snapshot

end WatchfaceCheck
