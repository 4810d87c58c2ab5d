import WatchfaceCheck.Text.Split
namespace WatchfaceCheck

open Text

structure Path where
  text : String
deriving DecidableEq, Repr

namespace Path

abbrev Part := List Char

def parts (p : Path) : List Part := split '/' p.text.toList

def isAbsolute (p : Path) : Bool := p.text.toList.head? == some '/'

-- An absolute path stands for itself wherever it is joined to.
def join (base p : Path) : Path :=
  if p.isAbsolute then p
  else if base.text.isEmpty || base.text.toList.getLast? == some '/' then ⟨base.text ++ p.text⟩
  else ⟨base.text ++ "/" ++ p.text⟩

def isFiller (part : Part) : Bool := part == [] || part == ['.']

def isUp (part : Part) : Bool := part == ['.', '.']

def byteLimit : Nat := 4095

def partByteLimit : Nat := 255

def isTooLong (p : Path) : Bool := byteLimit < p.text.utf8ByteSize

def isTooLongPart (part : Part) : Bool := partByteLimit < (String.ofList part).utf8ByteSize

-- What a path starts from. A dot counts only at the very beginning.
inductive Anchor where
  | root
  | here
  | unstated
deriving DecidableEq, Repr

def anchor (p : Path) : Anchor :=
  if p.isAbsolute then .root
  else if p.parts.head? == some ['.'] then .here
  else .unstated

def body (p : Path) : List Part :=
  match p.anchor with
  | .unstated => p.parts
  | _ => p.parts.tail

def steps (p : Path) : List Part := p.body.filter fun part => !isFiller part

def componentCount (p : Path) : Nat :=
  match p.anchor with
  | .unstated => p.steps.length
  | _ => p.steps.length + 1

def fileName? (p : Path) : Option Part := p.steps.getLast?.filter fun part => !isUp part

-- A file name is cut at its last dot, but not at one that begins it.
def cut (name : Part) : Part × Option Part :=
  match name.reverse.dropWhile (· != '.') with
  | _ :: c :: before =>
    ((c :: before).reverse, some (name.reverse.takeWhile (· != '.')).reverse)
  | _ => (name, none)

def stem? (p : Path) : Option Part := p.fileName?.map fun name => (cut name).1

def extension? (p : Path) : Option Part := p.fileName?.bind fun name => (cut name).2

def assemble (anchor : Anchor) (body : List Part) : Path :=
  match anchor, body with
  | .root, body => ⟨String.ofList ('/' :: joinWith '/' body)⟩
  | .here, [] => ⟨"."⟩
  | .here, body => ⟨String.ofList ('.' :: '/' :: joinWith '/' body)⟩
  | .unstated, body => ⟨String.ofList (joinWith '/' body)⟩

def above (anchor : Anchor) (backwards : List Part) : List Path :=
  match backwards with
  | [] =>
    match anchor with
    | .here => [⟨""⟩]
    | _ => []
  | _ :: rest =>
    assemble anchor (rest.dropWhile isFiller).reverse :: above anchor (rest.dropWhile isFiller)
termination_by backwards.length
decreasing_by
  have := (List.dropWhile_sublist (l := rest) isFiller).length_le
  simp
  omega

def parents (p : Path) : List Path := above p.anchor (p.body.reverse.dropWhile isFiller)

def parent? (p : Path) : Option Path := p.parents.head?

def ancestors (p : Path) : List Path := p :: p.parents

end Path

end WatchfaceCheck
