import WatchfaceCheck.PackageManager
namespace WatchfaceCheck

inductive Tool where
  | node
  | typescript
deriving DecidableEq, Repr

structure MissingTool where
  tool : Tool
  manager : Option PackageManager
deriving DecidableEq, Repr

namespace MissingTool

def detect (files : Files) (root : Path) (tool : Tool) : MissingTool :=
  ⟨tool, PackageManager.detect files root⟩

def commandLine (manager : PackageManager) (note : String) : String :=
  "  " ++ manager.installCommand ++ note ++ "\n"

def installText : Option PackageManager → String
  | some manager => "To install, run:\n\n" ++ commandLine manager ""
  | none =>
    "To install, run one of the following:\n\n" ++ commandLine .npm "  # npm"
      ++ commandLine .pnpm "  # pnpm" ++ commandLine .yarn "  # yarn" ++ commandLine .bun "  # bun"

def message (missing : MissingTool) : String :=
  match missing.tool with
  | .node =>
    "error: node not found\n\n"
      ++ "rocky-lint runs the TypeScript compiler through Node.js.\n"
      ++ "Install Node.js or set ROCKY_LINT_NODE to its executable.\n"
  | .typescript =>
    "error: typescript not found\n\n"
      ++ "rocky-lint requires the 'typescript' package to be installed.\n"
      ++ "Set ROCKY_LINT_TYPESCRIPT to point at an existing install.\n\n"
      ++ installText missing.manager

def summary (missing : MissingTool) : String :=
  let wanted := match missing.tool with
    | .node => "Node"
    | .typescript => "TypeScript"
  let manager := match missing.manager with
    | none => "None"
    | some manager => "Some(" ++ manager.name.capitalize ++ ")"
  "checker unavailable: " ++ wanted ++ " not found (package manager: " ++ manager ++ ")"

end MissingTool

inductive CheckError where
  | missingInput
  | notFound (path : Path)
  | invalidInput (path : Path)
  | invalidDefinition (path : Path)
  | duplicateInput (name : String) (first second : Path)
  | toolMissing (missing : MissingTool)
  | io (cause : FileError)
  | checkerFailed (exitCode : Int) (complaint : String)
  | unreadableAnswer
deriving DecidableEq, Repr

namespace CheckError

def message : CheckError → String
  | .missingInput => "no input file given"
  | .notFound path => "file not found: " ++ path.text
  | .invalidInput path => "input file must end in .js or .ts: " ++ path.text
  | .invalidDefinition path => "definition file must end in .ts or .d.ts: " ++ path.text
  | .duplicateInput name first second =>
    "input files " ++ first.text ++ " and " ++ second.text ++ " would both be checked as " ++ name
  | .toolMissing missing => missing.message
  | .io cause => "IO error: " ++ cause.message
  | .checkerFailed exitCode complaint =>
    "checker error (exit code " ++ toString exitCode ++ "): " ++ complaint
  | .unreadableAnswer => "JSON parse error: " ++ Json.malformed

-- Whether the way the tool was called is to blame, not the tool's surroundings.
def isUsage : CheckError → Bool
  | .missingInput => true
  | .notFound _ => true
  | .invalidInput _ => true
  | .invalidDefinition _ => true
  | .duplicateInput _ _ _ => true
  | .toolMissing _ => false
  | .io _ => false
  | .checkerFailed _ _ => false
  | .unreadableAnswer => false

end CheckError

end WatchfaceCheck
