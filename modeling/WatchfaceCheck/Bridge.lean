import WatchfaceCheck.Bridge.Script
import WatchfaceCheck.CompilerOptions
import WatchfaceCheck.Snapshot.Reader
import WatchfaceCheck.Toolchain
namespace WatchfaceCheck

open Text

structure Question where
  directory : Directory
  rootNames : List String
  options : CompilerOptions

abbrev Checker := Question → Except CheckError Snapshot

namespace Bridge

-- The request goes to the script through its standard input.
def request (typescript : Path) (question : Question) : Json :=
  .ofMembers [("typescript", .ofText typescript.text), ("rootNames", .ofTexts question.rootNames),
    ("options", question.options.toJson)]

def install (directory : Directory) : Except FileError Directory :=
  if (directory.pathOf scriptName).isTooLong then .error .nameTooLong
  else if directory.folders.contains scriptName then .error .isADirectory
  else .ok (directory.write scriptName (bytesOf script))

def invocation (tools : Toolchain) (question : Question) : Invocation where
  program := tools.node
  arguments := [(question.directory.pathOf scriptName).text]
  directory := some question.directory.path
  input := bytesOf (request tools.typescript question).compact

def answer (done : Completed) : Except CheckError Snapshot :=
  if done.ending.isSuccess then
    match Snapshot.read? (Utf8.symbols done.output) with
    | none => .error .unreadableAnswer
    | some program => .ok program
  else .error (.checkerFailed done.ending.code (trimmed (lossy (Utf8.symbols done.complaint))))

def prepare (host : Host) (question : Question) : Except FileError Host :=
  match install question.directory with
  | .error e => .error e
  | .ok installed => host.store installed

def ask (host : Host) (tools : Toolchain) (question : Question) :
    Host × Except CheckError Snapshot :=
  match prepare host question with
  | .error e => (host, .error (.io e))
  | .ok ready =>
    match ready.start (invocation tools question) with
    | (left, .error e) => (left, .error (.io e))
    | (left, .ok done) => (left, answer done)

def checker (host : Host) (tools : Toolchain) : Checker := fun question =>
  (ask host tools question).2

-- Files that already stand in a directory can be checked without staging them.
def askAt (host : Host) (tools : Toolchain) (root : Path) (rootNames : List String)
    (options : CompilerOptions) : Host × Except CheckError Snapshot :=
  match host.files.directory root with
  | .error e => (host, .error (.io e))
  | .ok directory => ask host tools ⟨directory, rootNames, options⟩

end Bridge

end WatchfaceCheck
