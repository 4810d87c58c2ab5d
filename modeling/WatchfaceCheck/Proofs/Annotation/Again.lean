import WatchfaceCheck.Proofs.Annotation.Lines
import WatchfaceCheck.Text.Search
namespace WatchfaceCheck

open Text TypeComment

namespace TypeComment

-- What an annotated script begins with, if there is no colon in it, the script begins with as well:
-- an annotation would have brought its colon.
theorem front_of_annotateText {text front rest : List Char} (colonless : ':' ∉ front)
    (same : annotateText text = front ++ rest) :
    ∃ after, text = front ++ after ∧ annotateText after = rest := by
  induction front generalizing text with
  | nil => exact ⟨text, rfl, same⟩
  | cons c front ih =>
    rw [List.mem_cons, not_or] at colonless
    cases text with
    | nil =>
      rw [annotateText_nil] at same
      cases same
    | cons d others =>
      cases got : read? (d :: others) with
      | some found =>
        rw [annotateText_comment got] at same
        exact absurd (List.cons.inj same).1 colonless.1
      | none =>
        rw [annotateText_plain got] at same
        obtain ⟨rfl, later⟩ := List.cons.inj same
        obtain ⟨after, rfl, left⟩ := ih colonless.2 later
        exact ⟨after, rfl, left⟩

theorem Formed.colon_not_mem {note : TypeComment} (formed : note.Formed) :
    ':' ∉ note.lead ++ note.path ++ note.trail ++ closing := by
  have blank : isBlank ':' = false := by decide
  have unnamed : inPath ':' = false := by decide
  simp only [List.mem_append, not_or]
  refine ⟨⟨⟨fun listed => ?_, fun listed => ?_⟩, fun listed => ?_⟩, by decide⟩
  · rw [formed.lead _ listed] at blank
    cases blank
  · rw [formed.path.all_inPath _ listed] at unnamed
    cases unnamed
  · rw [formed.trail _ listed] at blank
    cases blank

theorem source_eq (note : TypeComment) : note.source
    = '/' :: '*' :: ':' :: (note.lead ++ note.path ++ note.trail ++ closing) := by
  simp [source, opening]

-- Behind the `/*` of a comment that an annotated text begins with, the text has a comment of its
-- own. Otherwise its colon would be a plain one, and with the rest of the comment, in which there is
-- no other, it would have been a comment before.
theorem assembled_of_front {text rest : List Char} {note : TypeComment} (formed : note.Formed)
    (same : annotateText text = note.source ++ rest) :
    ∃ (comment : TypeComment) (after : List Char),
      comment.Formed ∧ text = '/' :: '*' :: (comment.source ++ after) := by
  have front : annotateText text = ['/', '*']
      ++ ':' :: (note.lead ++ note.path ++ note.trail ++ closing ++ rest) := by
    rw [same, source_eq]
    rfl
  obtain ⟨behind, rfl, left⟩ := front_of_annotateText (by decide) front
  cases behind with
  | nil =>
    rw [annotateText_nil] at left
    cases left
  | cons c others =>
    cases got : read? (c :: others) with
    | some found =>
      obtain ⟨formed', begins⟩ := read?_iff.mp got
      exact ⟨found.1, found.2, formed', congrArg _ begins⟩
    | none =>
      rw [annotateText_plain got] at left
      obtain ⟨rfl, later⟩ := List.cons.inj left
      obtain ⟨after, rfl, -⟩ := front_of_annotateText formed.colon_not_mem later
      -- The colon stands in the text itself, and so does the rest of the comment.
      have begun : ['/', '*'] ++ ':' :: (note.lead ++ note.path ++ note.trail ++ closing ++ after)
          = note.source ++ after := by
        rw [source_eq]
        rfl
      have annotated := annotateText_comment (read?_iff.mpr ⟨formed, begun⟩)
      rw [front] at annotated
      cases (List.cons.inj annotated).1

theorem Formed.slash_not_mem_annotation {note : TypeComment} (formed : note.Formed) :
    '/' ∉ note.annotation := by
  unfold annotation
  intro listed
  rcases List.mem_append.mp listed with mark | named
  · exact absurd mark (by decide)
  · exact absurd (formed.path.all_inPath '/' named) (by decide)

theorem ofText_plain_of_ne {c : Char} {rest : List Char} (other : c ≠ '/') :
    Piece.ofText (c :: rest) = .plain c :: Piece.ofText rest := by
  refine ofText_plain ?_
  cases got : read? (c :: rest) with
  | none => rfl
  | some found =>
    have same := read?_source got
    exact absurd (List.cons.inj same).1 other

end TypeComment

namespace Decomposition

def ending (d : Decomposition) : List Char := (d.noted.getLast?.map Prod.snd).getD d.opening

-- What begins at a position of the annotated script begins with a `/*` that ended a plain text of the
-- script, directly before one of its comments.
def Assembles (d : Decomposition) (position : Nat) : Prop :=
  ∃ (before : Decomposition) (comment : TypeComment) (text : List Char)
    (after : List (TypeComment × List Char)),
    d = ⟨before.opening, before.noted ++ (comment, text) :: after⟩
      ∧ ['/', '*'] <:+ before.ending ∧ position + 2 = before.annotated.length

theorem ending_push {c : Char} {d : Decomposition} {text : List Char} (ends : text <:+ d.ending) :
    text <:+ (d.push c).ending := by
  unfold ending push at *
  cases last : d.noted.getLast? with
  | none =>
    rw [last] at ends
    exact ends.trans (List.suffix_cons c d.opening)
  | some part =>
    rw [last] at ends
    exact ends

theorem ending_note (comment : TypeComment) (d : Decomposition) :
    (d.note comment).ending = d.ending := by
  unfold ending note
  rw [List.getLast?_cons]
  cases d.noted.getLast? <;> rfl

theorem assembles_push {c : Char} {d : Decomposition} {position : Nat}
    (assembled : d.Assembles position) : (d.push c).Assembles (position + 1) := by
  obtain ⟨before, comment, text, after, rfl, glued, place⟩ := assembled
  refine ⟨before.push c, comment, text, after, rfl, ending_push glued, ?_⟩
  rw [annotated_push, List.length_cons, ← place]

theorem assembles_note {comment : TypeComment} {d : Decomposition} {position : Nat}
    (assembled : d.Assembles position) :
    (d.note comment).Assembles (comment.annotation.length + position) := by
  obtain ⟨before, other, text, after, rfl, glued, place⟩ := assembled
  refine ⟨before.note comment, other, text, after, rfl, ?_, ?_⟩
  · rw [ending_note]
    exact glued
  · rw [annotated_note, List.length_append, ← place]
    omega

theorem assembles_front {comment : TypeComment} {d : Decomposition} :
    (((d.note comment).push '*').push '/').Assembles 0 :=
  ⟨⟨['/', '*'], []⟩, comment, d.opening, d.noted, rfl, List.suffix_rfl, rfl⟩

theorem slash_of_beginsAt {text : List Char} {position : Nat} (begins : BeginsAt text position) :
    text[position]? = some '/' := by
  obtain ⟨comment, rest, -, same⟩ := begins
  have first := congrArg List.head? same
  rw [List.head?_drop] at first
  rw [first]
  rfl

theorem not_beginsAt_within {note : TypeComment} (formed : note.Formed) {rest : List Char}
    {position : Nat} (within : position < note.annotation.length) :
    ¬ BeginsAt (note.annotation ++ rest) position := by
  intro begins
  have slash := slash_of_beginsAt begins
  rw [List.getElem?_append_left within] at slash
  exact formed.slash_not_mem_annotation (List.mem_of_getElem? slash)

-- By the pieces of the script. What begins behind the first piece is left to the rest; nothing begins
-- within an annotation, and what begins at a plain character is told by `assembled_of_front`.
theorem assembles_of_begins {text : List Char} {position : Nat}
    (begins : BeginsAt (annotateText text) position) :
    (ofPieces (Piece.ofText text)).Assembles position := by
  induction text using Piece.ofText.induct generalizing position with
  | case1 =>
    rw [annotateText_nil] at begins
    exact absurd begins (not_beginsAt_nil position)
  | case2 c rest note after got ih =>
    have formed := (read?_iff.mp got).1
    rw [annotateText_comment got] at begins
    rw [ofText_comment got]
    by_cases within : position < note.annotation.length
    · exact absurd begins (not_beginsAt_within formed within)
    · obtain ⟨further, rfl⟩ := Nat.exists_eq_add_of_le (Nat.le_of_not_lt within)
      exact assembles_note (ih ((beginsAt_beyond _ _ _).mp begins))
  | case3 c rest silent ih =>
    cases position with
    | succ further =>
      rw [annotateText_plain silent] at begins
      rw [ofText_plain silent]
      exact assembles_push (ih begins)
    | zero =>
      obtain ⟨note, left, formed, same⟩ := begins
      obtain ⟨comment, after, formed', front⟩ := assembled_of_front formed same
      have read : read? (comment.source ++ after) = some (comment, after) :=
        read?_iff.mpr ⟨formed', rfl⟩
      rw [front] at silent ⊢
      rw [ofText_plain silent, ofText_plain_of_ne (by decide), ofText_comment read]
      exact assembles_front

theorem ending_suffix_source (d : Decomposition) : d.ending <:+ d.source := by
  obtain ⟨opening, noted⟩ := d
  rcases List.eq_nil_or_concat noted with rfl | ⟨front, part, rfl⟩
  · simp [ending, source]
  · refine ⟨source ⟨opening, front⟩ ++ part.1.source, ?_⟩
    simp [ending, source]

theorem source_parted (before : Decomposition) (comment : TypeComment) (text : List Char)
    (after : List (TypeComment × List Char)) :
    source ⟨before.opening, before.noted ++ (comment, text) :: after⟩
      = before.source ++ comment.source ++ source ⟨text, after⟩ := by
  simp [source]

theorem infix_of_assembles {d : Decomposition} {position : Nat} (assembled : d.Assembles position) :
    "/*/*:".toList <:+: d.source := by
  obtain ⟨before, comment, text, after, rfl, glued, -⟩ := assembled
  obtain ⟨kept, ends⟩ := glued.trans before.ending_suffix_source
  refine ⟨kept, comment.lead ++ comment.path ++ comment.trail ++ closing ++ source ⟨text, after⟩, ?_⟩
  rw [source_parted, ← ends, source_eq]
  simp

theorem occurs_eq_false_of_silent {script : String}
    (silent : ∀ position, ¬ BeginsAt script.toList position) : occurs script = false := by
  have plain : Of ⟨script.toList, []⟩ script.toList := by
    refine ⟨List.append_nil _, fun part listed => ?_, fun position _ => silent position⟩
    cases listed
  exact (noted_ofPieces_eq_nil_iff _).mp (congrArg noted (of_iff.mp plain)).symm

theorem annotate_of_not_occurs {script : String} (none : occurs script = false) :
    annotate script = script := by
  have same := (annotated_eq_source_iff _).mpr ((noted_ofPieces_eq_nil_iff _).mpr none)
  rw [annotated_ofPieces, (of_iff.mpr rfl : Of _ script.toList).whole] at same
  rw [annotate, annotateText, same, String.ofList_toList]

end Decomposition

namespace TypeComment

theorem annotated_again_finds_assembled (script : String) :
    ∃ parts : Decomposition, (∀ other : Decomposition, other.Of script.toList ↔ other = parts)
      ∧ (annotate script).toList = parts.annotated
      ∧ (∀ position, Decomposition.BeginsAt (annotate script).toList position →
        parts.Assembles position)
      ∧ (mentions "/*/*:" script = false →
        annotate (annotate script) = annotate script ∧ occurs (annotate script) = false) := by
  let parts := Decomposition.ofPieces (Piece.ofText script.toList)
  have text : (annotate script).toList = annotateText script.toList := String.toList_ofList
  have assembled : ∀ position, Decomposition.BeginsAt (annotate script).toList position →
      parts.Assembles position := by
    intro position begins
    rw [text] at begins
    exact Decomposition.assembles_of_begins begins
  refine ⟨parts, fun other => Decomposition.of_iff, ?_, assembled, ?_⟩
  · rw [text, Decomposition.annotated_ofPieces]
    rfl
  · intro apart
    have silent : ∀ position, ¬ Decomposition.BeginsAt (annotate script).toList position := by
      intro position begins
      have glued := Decomposition.infix_of_assembles (assembled position begins)
      rw [(Decomposition.of_iff.mpr rfl : parts.Of script.toList).whole] at glued
      rw [mentions, occursIn_iff.mpr glued] at apart
      cases apart
    have none := Decomposition.occurs_eq_false_of_silent silent
    exact ⟨Decomposition.annotate_of_not_occurs none, none⟩

-- The second pass goes on where the first has put a comment together.
example : annotate "/*/*: a */b */" = "/*: ab */" ∧ annotate "/*: ab */" = ": ab" := by
  decide +kernel

end TypeComment

end WatchfaceCheck
