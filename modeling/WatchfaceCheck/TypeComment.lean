import WatchfaceCheck.Text.Blank
import WatchfaceCheck.Text.Split
import WatchfaceCheck.Text.WordChar
namespace WatchfaceCheck

open Text

structure TypeComment where
  lead : List Char
  path : List Char
  trail : List Char
deriving DecidableEq, Repr

namespace TypeComment

def opening : List Char := ['/', '*', ':']

def closing : List Char := ['*', '/']

def source (comment : TypeComment) : List Char :=
  opening ++ comment.lead ++ comment.path ++ comment.trail ++ closing

def annotation (comment : TypeComment) : List Char := [':', ' '] ++ comment.path

def startsName (c : Char) : Bool := c.isAlpha || c == '_' || c == '$'

def continuesName (c : Char) : Bool := isWordChar c || c == '$'

def isName : List Char → Bool
  | [] => false
  | c :: rest => startsName c && rest.all continuesName

def isPath (text : List Char) : Bool := (split '.' text).all isName

def inPath (c : Char) : Bool := continuesName c || c == '.'

-- What may follow a path, a blank or a star, cannot be part of one; so the path is the longest run
-- of characters that a path may hold.
def body? (text : List Char) : Option (TypeComment × List Char) :=
  let lead := text.takeWhile isBlank
  let fromPath := text.dropWhile isBlank
  let path := fromPath.takeWhile inPath
  let fromTrail := fromPath.dropWhile inPath
  let trail := fromTrail.takeWhile isBlank
  match isPath path, fromTrail.dropWhile isBlank with
  | true, '*' :: '/' :: rest => some (⟨lead, path, trail⟩, rest)
  | _, _ => none

def read? : List Char → Option (TypeComment × List Char)
  | '/' :: '*' :: ':' :: text => body? text
  | _ => none

theorem body?_source {text rest : List Char} {comment : TypeComment}
    (got : body? text = some (comment, rest)) :
    text = comment.lead ++ comment.path ++ comment.trail ++ closing ++ rest := by
  simp only [body?] at got
  split at got
  · next ended =>
    cases got
    simp only [closing, List.append_assoc, List.cons_append, List.nil_append, ← ended,
      List.takeWhile_append_dropWhile]
  · cases got

theorem read?_source {text rest : List Char} {comment : TypeComment}
    (got : read? text = some (comment, rest)) : text = comment.source ++ rest := by
  unfold read? at got
  split at got
  · simp [source, opening, body?_source got]
  · cases got

theorem length_lt_of_read? {text rest : List Char} {comment : TypeComment}
    (got : read? text = some (comment, rest)) : rest.length < text.length := by
  rw [read?_source got]
  simp [source, opening, closing]
  omega

end TypeComment

inductive Piece where
  | plain (c : Char)
  | comment (note : TypeComment)
deriving DecidableEq, Repr

namespace Piece

def source : Piece → List Char
  | .plain c => [c]
  | .comment note => note.source

def annotated : Piece → List Char
  | .plain c => [c]
  | .comment note => note.annotation

def isComment : Piece → Bool
  | .plain _ => false
  | .comment _ => true

def ofText (text : List Char) : List Piece :=
  match text with
  | [] => []
  | c :: rest =>
    match _ : TypeComment.read? (c :: rest) with
    | some (note, after) => .comment note :: ofText after
    | none => .plain c :: ofText rest
termination_by text.length
decreasing_by
  · exact TypeComment.length_lt_of_read? (by assumption)
  · simp

theorem source_ofText (text : List Char) : (ofText text).flatMap source = text := by
  fun_induction ofText text with
  | case1 => rfl
  | case2 c rest note after got ih =>
    simp [source, ih, TypeComment.read?_source got]
  | case3 c rest got ih => simp [source, ih]

end Piece

namespace TypeComment

def annotateText (text : List Char) : List Char := (Piece.ofText text).flatMap Piece.annotated

def annotate (script : String) : String := String.ofList (annotateText script.toList)

def occurs (script : String) : Bool := (Piece.ofText script.toList).any Piece.isComment

end TypeComment

end WatchfaceCheck
