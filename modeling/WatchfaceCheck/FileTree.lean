import WatchfaceCheck.Files
namespace WatchfaceCheck

open Text

inductive Leaf where
  | file (file : StoredFile)
  | directory
deriving DecidableEq, Repr

structure FileTree where
  leaves : List (List Path.Part × Leaf)

namespace FileTree

def empty : FileTree := ⟨[([], .directory)]⟩

def leaf? (tree : FileTree) (names : List Path.Part) : Option Leaf := tree.leaves.lookup names

def isDirectory (tree : FileTree) (names : List Path.Part) : Bool :=
  tree.leaf? names == some .directory

def addDirectory (tree : FileTree) (names : List Path.Part) : FileTree :=
  let onTheWay := (List.range (names.length + 1)).map names.take
  ⟨tree.leaves ++ (onTheWay.filter fun above => (tree.leaf? above).isNone).map
    fun above => (above, .directory)⟩

def addFile (tree : FileTree) (names : List Path.Part) (file : StoredFile) : FileTree :=
  ⟨(names, .file file)
    :: (tree.addDirectory names.dropLast).leaves.filter fun entry => entry.1 != names⟩

-- From a directory, given by its names last first, one part further.
def step (tree : FileTree) (backwards : List Path.Part) (part : Path.Part) :
    Except FileError (List Path.Part) :=
  if !tree.isDirectory backwards.reverse then .error .notADirectory
  else if Path.isFiller part then .ok backwards
  else if Path.isUp part then .ok backwards.tail
  else if Path.isTooLongPart part then .error .nameTooLong
  else if (tree.leaf? (part :: backwards).reverse).isSome then .ok (part :: backwards)
  else .error .notFound

def namesUnder (tree : FileTree) (names : List Path.Part) : List (String × Leaf) :=
  tree.leaves.filterMap fun entry =>
    match entry.1.getLast? with
    | some name =>
      if entry.1.dropLast == names then some (String.ofList name, entry.2) else none
    | none => none

def directoryAt (tree : FileTree) (p : Path) (names : List Path.Part) : Directory where
  path := p
  files := Dictionary.ofList ((tree.namesUnder names).reverse.filterMap fun entry =>
    match entry.2 with
    | .file file => some (entry.1, file)
    | .directory => none)
  folders := (tree.namesUnder names).filterMap fun entry =>
    match entry.2 with
    | .file _ => none
    | .directory => some entry.1

def resolve (tree : FileTree) (current : List Path.Part) (p : Path) :
    Except FileError (List Path.Part) :=
  if p.text.toList.contains '\x00' then .error .nulInPath
  else if p.text.isEmpty then .error .notFound
  else if p.isTooLong then .error .nameTooLong
  else
    let start := if p.isAbsolute then [] else current.reverse
    (p.parts.foldlM tree.step start).map List.reverse

def look (tree : FileTree) (current : List Path.Part) (p : Path) : Except FileError Entry :=
  match tree.resolve current p with
  | .error e => .error e
  | .ok names =>
    match tree.leaf? names with
    | some (.file file) => .ok (.file file)
    | some .directory => .ok (.directory (tree.directoryAt p names))
    | none => .error .notFound

def files (tree : FileTree) (current : List Path.Part) : Files := ⟨tree.look current⟩

end FileTree

end WatchfaceCheck
