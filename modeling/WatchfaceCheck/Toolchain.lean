import WatchfaceCheck.CheckError
import WatchfaceCheck.Host
import WatchfaceCheck.Text.Blank
namespace WatchfaceCheck

open Text

structure ToolRequest where
  node : Option Path := none
  typescript : Option Path := none
  searchRoot : Path
deriving DecidableEq, Repr

structure Toolchain where
  node : Path
  typescript : Path
deriving DecidableEq, Repr

namespace ToolRequest

def chosen (explicit : Option Path) (setting : Option String) : Option Path :=
  explicit.or (setting.map Path.mk)

-- A bare command name is looked up on the search path; any other path is taken from the root.
def resolveNode (host : Host) (request : ToolRequest) (node : Path) : Path :=
  if node.componentCount == 1 && !node.isAbsolute then
    (host.command? node).getD (request.searchRoot.join node)
  else request.searchRoot.join node

def node? (host : Host) (request : ToolRequest) : Option Path :=
  match chosen request.node host.environment.node with
  | some node => some (request.resolveNode host node)
  | none => host.command? ⟨"node"⟩

def isPackage (host : Host) (directory : Path) : Bool :=
  host.files.isFile (directory.join ⟨"package.json"⟩)

def localPackages (request : ToolRequest) : List Path :=
  request.searchRoot.ancestors.map fun directory =>
    (directory.join ⟨"node_modules"⟩).join ⟨"typescript"⟩

def rootOfAnswer? : Except FileError Completed → Option Path
  | .error _ => none
  | .ok done =>
    let answer := trimmed (lossy (Utf8.symbols done.output))
    if done.ending.isSuccess && !answer.isEmpty then some ⟨answer⟩ else none

def globalRoot? (host : Host) : Host × Option Path :=
  match host.command? ⟨"npm"⟩ with
  | none => (host, none)
  | some npm =>
    let asked := host.start { program := npm, arguments := ["root", "-g"] }
    (asked.1, rootOfAnswer? asked.2)

def globalPackage? (host : Host) : Host × Option Path :=
  let asked := globalRoot? host
  (asked.1, (asked.2.map fun root => root.join ⟨"typescript"⟩).filter (isPackage asked.1))

-- npm is asked only where nothing else helps.
def typescript? (host : Host) (request : ToolRequest) : Host × Option Path :=
  match chosen request.typescript host.environment.typescript with
  | some package => (host, some (request.searchRoot.join package))
  | none =>
    match request.localPackages.find? (isPackage host) with
    | some package => (host, some package)
    | none => globalPackage? host

def locate (host : Host) (request : ToolRequest) : Host × Except MissingTool Toolchain :=
  match request.node? host with
  | none => (host, .error (.detect host.files request.searchRoot .node))
  | some node =>
    match request.typescript? host with
    | (left, none) => (left, .error (.detect left.files request.searchRoot .typescript))
    | (left, some typescript) => (left, .ok ⟨node, typescript⟩)

end ToolRequest

end WatchfaceCheck
