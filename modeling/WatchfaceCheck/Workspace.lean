import WatchfaceCheck.CheckError
import WatchfaceCheck.CompilerOptions
import WatchfaceCheck.NameMap
import WatchfaceCheck.TypeComment
import WatchfaceCheck.Workspace.Declarations
namespace WatchfaceCheck

open Text

-- Where a staged file comes from. Only scripts are annotated.
inductive StagedSource where
  | script (path : Path)
  | declarations (path : Path)
  | bundled
deriving DecidableEq, Repr

namespace StagedSource

-- What is put into the workspace for a staged file. Declarations are copied as they are, and stay
-- executable if they were.
def stored (files : Files) : StagedSource → Except FileError StoredFile
  | .script p =>
    match files.readText p with
    | .error e => .error e
    | .ok text => .ok { content := bytesOf (TypeComment.annotate text) }
  | .declarations p => files.file p
  | .bundled => .ok { content := bytesOf Declarations.text }

def isReadable (files : Files) : StagedSource → Bool
  | .script p => (files.readText p).isOk
  | .declarations p => (files.file p).isOk
  | .bundled => true

end StagedSource

structure StagedFile where
  name : String
  source : StagedSource
deriving DecidableEq, Repr

namespace StagedFile

def scriptName (files : Files) (p : Path) : Except CheckError String :=
  match p.extension?, p.stem? with
  | some extension, some stem =>
    if extension == ['j', 's'] || extension == ['t', 's'] then
      if files.isFile p then .ok (String.ofList (stem ++ ['.', 't', 's']))
      else .error (.notFound p)
    else .error (.invalidInput p)
  | _, _ => .error (.invalidInput p)

def numberedName (number : Nat) (name : String) : String := toString number ++ "_" ++ name

def declarationsName (files : Files) (number : Nat) (p : Path) : Except CheckError String :=
  match p.extension?, p.fileName? with
  | some extension, some name =>
    if extension == ['t', 's'] then
      if files.isFile p then .ok (numberedName number (String.ofList name))
      else .error (.notFound p)
    else .error (.invalidDefinition p)
  | _, _ => .error (.invalidDefinition p)

def script (named : String × Path) : StagedFile := ⟨named.1, .script named.2⟩

def bundled : StagedFile := ⟨numberedName 0 Declarations.fileName, .bundled⟩

def claim (files : Files) (claimed : List (String × Path)) (p : Path) :
    Except CheckError (List (String × Path)) :=
  match scriptName files p with
  | .error e => .error e
  | .ok name =>
    match claimed.lookup name with
    | some first => .error (.duplicateInput name first p)
    | none => .ok (claimed ++ [(name, p)])

def nameScripts (files : Files) (inputs : List Path) : Except CheckError (List (String × Path)) :=
  inputs.foldlM (claim files) []

def nameDeclarations (files : Files) (number : Nat) :
    List Path → Except CheckError (List StagedFile)
  | [] => .ok []
  | p :: others =>
    match declarationsName files number p with
    | .error e => .error e
    | .ok name =>
      match nameDeclarations files (number + 1) others with
      | .error e => .error e
      | .ok named => .ok (⟨name, .declarations p⟩ :: named)

def declarationFiles (files : Files) (definitions : List Path) :
    Except CheckError (List StagedFile) :=
  if definitions.isEmpty then .ok [bundled] else nameDeclarations files 0 definitions

end StagedFile

structure Workspace where
  directory : Directory
  files : List StagedFile
  names : NameMap

namespace Workspace

def directoryNameStart : String := "rocky-lint-"

def configurationName : String := "tsconfig.json"

def configuration (options : CompilerOptions) (names : List String) : Json :=
  .ofMembers [("compilerOptions", options.toSortedJson), ("files", .ofTexts names)]

-- Scripts under their names, with the paths they were given by; then the declarations.
def plan (files : Files) (inputs definitions : List Path) :
    Except CheckError (List (String × Path) × List StagedFile) :=
  if inputs.isEmpty then .error .missingInput
  else
    match StagedFile.nameScripts files inputs with
    | .error e => .error e
    | .ok scripts =>
      match StagedFile.declarationFiles files definitions with
      | .error e => .error e
      | .ok declarations => .ok (scripts, declarations)

def copy (files : Files) (directory : Directory) (staged : StagedFile) :
    Except CheckError Directory :=
  match staged.source.stored files with
  | .error e => .error (.io e)
  | .ok file =>
    match directory.put staged.name file with
    | .error e => .error (.io e)
    | .ok directory => .ok directory

def isCopyable (files : Files) (staged : StagedFile) : Bool :=
  staged.source.isReadable files && !Path.isTooLongPart staged.name.toList

def fill (files : Files) (directory : Directory) (staged : List StagedFile)
    (options : CompilerOptions) : Except CheckError Directory :=
  match staged.foldlM (copy files) directory with
  | .error e => .error e
  | .ok directory =>
    .ok (directory.write configurationName
      (bytesOf (configuration options (staged.map StagedFile.name)).pretty))

def stage (files : Files) (scratch : Except FileError Path) (inputs definitions : List Path)
    (options : CompilerOptions) : Except CheckError Workspace :=
  match plan files inputs definitions with
  | .error e => .error e
  | .ok (scripts, declarations) =>
    match scratch with
    | .error e => .error (.io e)
    | .ok path =>
      let staged := scripts.map StagedFile.script ++ declarations
      match fill files ⟨path, .empty, []⟩ staged options with
      | .error e => .error e
      | .ok directory =>
        .ok ⟨directory, staged,
          Dictionary.ofList (scripts.map fun named => (named.1, named.2.text))⟩

def fileNames (w : Workspace) : List String := w.files.map StagedFile.name

end Workspace

end WatchfaceCheck
