import WatchfaceCheck.Dictionary
import WatchfaceCheck.Path
import WatchfaceCheck.Text.Utf8
namespace WatchfaceCheck

open Text

inductive FileError where
  | notFound
  | permissionDenied
  | notADirectory
  | isADirectory
  | nameTooLong
  | notText
  | nulInPath
  | nulInCommand
  | other (text : String)
deriving DecidableEq, Repr

namespace FileError

def message : FileError → String
  | .notFound => "No such file or directory (os error 2)"
  | .permissionDenied => "Permission denied (os error 13)"
  | .notADirectory => "Not a directory (os error 20)"
  | .isADirectory => "Is a directory (os error 21)"
  | .nameTooLong => "File name too long (os error 36)"
  | .notText => "stream did not contain valid UTF-8"
  | .nulInPath => "file name contained an unexpected NUL byte"
  | .nulInCommand => "nul byte found in provided data"
  | .other text => text

end FileError

structure StoredFile where
  content : Bytes
  executable : Bool := false
deriving DecidableEq, Repr

structure Directory where
  path : Path
  files : Dictionary StoredFile
  folders : List String := []

namespace Directory

def read? (d : Directory) (name : String) : Option Bytes :=
  (d.files.find? name).map StoredFile.content

def isExecutable (d : Directory) (name : String) : Bool :=
  (d.files.find? name).any StoredFile.executable

-- Writing over a file leaves it as executable as it was.
def write (d : Directory) (name : String) (content : Bytes) : Directory :=
  { d with files := d.files.insert name ⟨content, d.isExecutable name⟩ }

def put (d : Directory) (name : String) (file : StoredFile) : Except FileError Directory :=
  if Path.isTooLongPart name.toList then .error .nameTooLong
  else .ok { d with files := d.files.insert name file }

def pathOf (d : Directory) (name : String) : Path := d.path.join ⟨name⟩

end Directory

inductive Entry where
  | file (file : StoredFile)
  | directory (directory : Directory)

structure Files where
  look : Path → Except FileError Entry

namespace Files

def contains (files : Files) (p : Path) : Bool :=
  match files.look p with
  | .ok _ => true
  | .error _ => false

def isFile (files : Files) (p : Path) : Bool :=
  match files.look p with
  | .ok (.file _) => true
  | _ => false

def isExecutable (files : Files) (p : Path) : Bool :=
  match files.look p with
  | .ok (.file file) => file.executable
  | _ => false

def file (files : Files) (p : Path) : Except FileError StoredFile :=
  match files.look p with
  | .ok (.file file) => .ok file
  | .ok (.directory _) => .error .isADirectory
  | .error e => .error e

def read (files : Files) (p : Path) : Except FileError Bytes :=
  (files.file p).map StoredFile.content

def readText (files : Files) (p : Path) : Except FileError String :=
  match files.read p with
  | .error e => .error e
  | .ok content =>
    match whole? (Utf8.symbols content) with
    | none => .error .notText
    | some text => .ok text

def directory (files : Files) (p : Path) : Except FileError Directory :=
  match files.look p with
  | .ok (.directory d) => .ok d
  | .ok (.file _) => .error .notADirectory
  | .error e => .error e

end Files

end WatchfaceCheck
