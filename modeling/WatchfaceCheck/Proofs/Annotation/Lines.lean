import WatchfaceCheck.Proofs.Annotation.Decomposition
import WatchfaceCheck.Proofs.LineTexts
namespace WatchfaceCheck

open Text

namespace TypeComment

theorem ofText_comment {text after : List Char} {note : TypeComment}
    (got : read? text = some (note, after)) :
    Piece.ofText text = .comment note :: Piece.ofText after := by
  cases text with
  | nil => cases got
  | cons c rest =>
    rw [Piece.ofText]
    split
    · next other beyond found =>
      rw [got] at found
      cases found
      rfl
    · next silent =>
      rw [got] at silent
      cases silent

theorem ofText_plain {c : Char} {rest : List Char} (silent : read? (c :: rest) = none) :
    Piece.ofText (c :: rest) = .plain c :: Piece.ofText rest := by
  rw [Piece.ofText]
  split
  · next note after found =>
    rw [silent] at found
    cases found
  · rfl

theorem annotateText_comment {text after : List Char} {note : TypeComment}
    (got : read? text = some (note, after)) :
    annotateText text = note.annotation ++ annotateText after := by
  unfold annotateText
  rw [ofText_comment got, List.flatMap_cons]
  rfl

theorem annotateText_plain {c : Char} {rest : List Char} (silent : read? (c :: rest) = none) :
    annotateText (c :: rest) = c :: annotateText rest := by
  unfold annotateText
  rw [ofText_plain silent, List.flatMap_cons]
  rfl

theorem annotateText_nil : annotateText [] = [] := by
  simp [annotateText, Piece.ofText]

theorem annotateText_eq_nil {text : List Char} (empty : annotateText text = []) : text = [] := by
  cases text with
  | nil => rfl
  | cons c rest =>
    cases got : read? (c :: rest) with
    | none =>
      rw [annotateText_plain got] at empty
      cases empty
    | some found =>
      rw [annotateText_comment got] at empty
      cases empty

theorem read?_append {text rest : List Char} {note : TypeComment}
    (got : read? text = some (note, rest)) (more : List Char) :
    read? (text ++ more) = some (note, rest ++ more) := by
  obtain ⟨formed, rfl⟩ := read?_iff.mp got
  exact read?_iff.mpr ⟨formed, List.append_assoc _ _ _⟩

theorem read?_none_of_append {text more : List Char} (silent : read? (text ++ more) = none) :
    read? text = none := by
  cases got : read? text with
  | none => rfl
  | some found =>
    rw [read?_append got more] at silent
    cases silent

theorem getLast?_source (note : TypeComment) : note.source.getLast? = some '/' := by
  simp [source, closing]

theorem read?_concat_none {text : List Char} {c : Char} (other : c ≠ '/')
    (silent : read? text = none) : read? (text ++ [c]) = none := by
  cases got : read? (text ++ [c]) with
  | none => rfl
  | some found =>
    obtain ⟨note, rest⟩ := found
    obtain ⟨formed, same⟩ := read?_iff.mp got
    rcases List.eq_nil_or_concat rest with rfl | ⟨before, last, rfl⟩
    · have ends := congrArg List.getLast? same
      rw [List.append_nil, getLast?_source, List.getLast?_concat] at ends
      exact absurd (Option.some.inj ends) other
    · rw [List.concat_eq_append, ← List.append_assoc] at same
      have front := List.append_inj_left' same rfl
      rw [read?_iff.mpr ⟨formed, front⟩] at silent
      cases silent

theorem annotateText_concat {c : Char} (other : c ≠ '/') (text : List Char) :
    annotateText (text ++ [c]) = annotateText text ++ [c] := by
  induction text using Piece.ofText.induct with
  | case1 =>
    have silent : read? ([] ++ [c]) = none := read?_concat_none other rfl
    rw [List.nil_append] at silent ⊢
    rw [annotateText_plain silent, annotateText_nil, List.nil_append]
  | case2 d rest note after got ih =>
    rw [annotateText_comment (read?_append got [c]), annotateText_comment got, ih,
      List.append_assoc]
  | case3 d rest silent ih =>
    have beyond : read? (d :: (rest ++ [c])) = none := read?_concat_none other silent
    rw [annotateText_plain silent, List.cons_append, annotateText_plain beyond, ih, List.cons_append]

theorem Formed.feed_not_mem_path {note : TypeComment} (formed : note.Formed) :
    '\n' ∉ note.path := by
  intro listed
  have inside := formed.path.all_inPath '\n' listed
  rw [not_inPath_of_isBlank rfl] at inside
  cases inside

theorem Formed.feed_not_mem_annotation {note : TypeComment} (formed : note.Formed) :
    '\n' ∉ note.annotation := by
  unfold annotation
  simp [formed.feed_not_mem_path]

theorem Formed.last_annotation {note : TypeComment} (formed : note.Formed) :
    note.annotation.getLast? ≠ some '\r' := by
  intro last
  unfold annotation at last
  rw [List.getLast?_append_of_ne_nil _ formed.path.ne_nil] at last
  have listed : '\r' ∈ note.path := List.mem_of_getLast? last
  have inside := formed.path.all_inPath '\r' listed
  rw [not_inPath_of_isBlank rfl] at inside
  cases inside

theorem last_of_annotateText {text : List Char} (last : (annotateText text).getLast? = some '\r') :
    text.getLast? = some '\r' := by
  induction text using Piece.ofText.induct with
  | case1 =>
    rw [annotateText_nil] at last
    cases last
  | case2 c rest note after got ih =>
    obtain ⟨formed, same⟩ := read?_iff.mp got
    rw [annotateText_comment got, List.getLast?_append] at last
    rw [same, List.getLast?_append]
    cases ends : (annotateText after).getLast? with
    | none =>
      rw [ends] at last
      exact absurd last formed.last_annotation
    | some d =>
      rw [ends] at last
      rw [ih (ends.trans last)]
      rfl
  | case3 c rest silent ih =>
    rw [annotateText_plain silent] at last
    rw [List.getLast?_cons] at last ⊢
    cases ends : (annotateText rest).getLast? with
    | none =>
      rw [ends] at last
      rw [annotateText_eq_nil (List.getLast?_eq_none_iff.mp ends)]
      exact last
    | some d =>
      rw [ends] at last
      rw [ih (ends.trans last)]
      rfl

theorem annotateText_trimReturns (line : List Char) :
    annotateText (LineIndex.trimReturns line) = LineIndex.trimReturns (annotateText line) := by
  induction line using List.reverseRecOn with
  | nil => rw [annotateText_nil]; exact annotateText_nil
  | append_singleton line c ih =>
    by_cases same : c = '\r'
    · subst same
      rw [LineIndex.trimReturns_return, annotateText_concat (by decide),
        LineIndex.trimReturns_return, ih]
    · have last : (line ++ [c]).getLast? ≠ some '\r' := by
        rw [List.getLast?_concat]
        exact fun h => same (Option.some.inj h)
      rw [LineIndex.trimReturns_of_last last,
        LineIndex.trimReturns_of_last fun h => last (last_of_annotateText h)]

-- By the pieces of the text: a comment belongs to the first line of what is left, and a character
-- that begins no comment in the text begins none in its line.
theorem split_annotateText {text : List Char}
    (single : ∀ note, Piece.comment note ∈ Piece.ofText text → '\n' ∉ note.source) :
    split '\n' (annotateText text) = (split '\n' text).map annotateText := by
  induction text using Piece.ofText.induct with
  | case1 => rw [annotateText_nil, split, List.map_singleton, annotateText_nil]
  | case2 c rest note after got ih =>
    obtain ⟨formed, same⟩ := read?_iff.mp got
    rw [ofText_comment got] at single
    have later := ih fun other listed => single other (List.mem_cons_of_mem _ listed)
    cases parts : split '\n' after with
    | nil => exact absurd parts (split_ne_nil _ _)
    | cons part others =>
      rw [parts, List.map_cons] at later
      -- The comment is read from its line as it is from the whole text.
      have read : read? (note.source ++ part) = some (note, part) := read?_iff.mpr ⟨formed, rfl⟩
      rw [annotateText_comment got, split_append_left formed.feed_not_mem_annotation later, same,
        split_append_left (single note (List.mem_cons_self ..)) parts, List.map_cons,
        annotateText_comment read]
  | case3 c rest silent ih =>
    rw [ofText_plain silent] at single
    have later := ih fun other listed => single other (List.mem_cons_of_mem _ listed)
    rw [annotateText_plain silent]
    by_cases feed : c = '\n'
    · subst feed
      simp only [split, if_pos, List.map_cons, later, annotateText_nil]
    · have whole : '\n' ∉ [c] := by simpa using Ne.symm feed
      cases parts : split '\n' rest with
      | nil => exact absurd parts (split_ne_nil _ _)
      | cons part others =>
        rw [parts, List.map_cons] at later
        obtain ⟨beyond, cut⟩ := split_front parts
        -- A comment of the line alone would be one of the text.
        have read : read? (c :: part) = none := by
          rw [cut, ← List.cons_append] at silent
          exact read?_none_of_append silent
        have front := split_append_left whole later
        have back := split_append_left whole parts
        rw [List.singleton_append] at front back
        rw [front, back, List.map_cons, List.singleton_append, List.singleton_append,
          annotateText_plain read]

end TypeComment

namespace Decomposition

def feeds (d : Decomposition) : Nat := (d.noted.flatMap fun part => part.1.source).count '\n'

theorem feeds_eq_zero_iff (d : Decomposition) :
    d.feeds = 0 ↔ ∀ part ∈ d.noted, '\n' ∉ part.1.source := by
  unfold feeds
  rw [List.count_eq_zero, List.mem_flatMap]
  simp only [not_exists, not_and]

theorem count_annotated {d : Decomposition} (formed : ∀ part ∈ d.noted, part.1.Formed) :
    d.annotated.count '\n' + d.feeds = d.source.count '\n' := by
  obtain ⟨opening, noted⟩ := d
  induction noted with
  | nil => simp [annotated, source, feeds]
  | cons part others ih =>
    have later := ih fun other listed => formed other (List.mem_cons_of_mem _ listed)
    have path := (formed part (List.mem_cons_self ..)).feed_not_mem_path
    have kept : ([':', ' '] ++ part.1.path ++ part.2).count '\n' = part.2.count '\n' := by
      simp [List.count_eq_zero.mpr path]
    simp only [annotated, source, feeds, List.flatMap_cons, List.count_append] at later kept ⊢
    omega

theorem comment_mem_iff {pieces : List Piece} {note : TypeComment} :
    .comment note ∈ pieces ↔ ∃ part ∈ (ofPieces pieces).noted, part.1 = note := by
  induction pieces with
  | nil => simp [ofPieces, empty]
  | cons piece rest ih =>
    cases piece with
    | plain c => simp [ofPieces, push, ih]
    | comment other => simp [ofPieces, Decomposition.note, ih, eq_comm]

end Decomposition

namespace TypeComment

theorem annotate_keeps_lines_iff (script : String) :
    ∃ parts : Decomposition, (∀ other : Decomposition, other.Of script.toList ↔ other = parts)
      ∧ (LineIndex.ofText (annotate script)).lineCount + parts.feeds
        = (LineIndex.ofText script).lineCount
      ∧ ((LineIndex.ofText (annotate script)).lineCount = (LineIndex.ofText script).lineCount
        ↔ ∀ part ∈ parts.noted, '\n' ∉ part.1.source)
      ∧ ((LineIndex.ofText (annotate script)).lineCount = (LineIndex.ofText script).lineCount →
        ∀ line, (LineIndex.ofText (annotate script)).lineText? line
          = ((LineIndex.ofText script).lineText? line).map annotateText) := by
  let parts := Decomposition.ofPieces (Piece.ofText script.toList)
  have taken : parts.Of script.toList := Decomposition.of_iff.mpr rfl
  have text : (annotate script).toList = annotateText script.toList := String.toList_ofList
  have counted : (LineIndex.ofText (annotate script)).lineCount + parts.feeds
      = (LineIndex.ofText script).lineCount := by
    have feeds := Decomposition.count_annotated taken.formed
    rw [Decomposition.annotated_ofPieces, taken.whole] at feeds
    rw [LineIndex.lineCount_ofText, LineIndex.lineCount_ofText, text, ← feeds, annotateText]
    omega
  have same : (LineIndex.ofText (annotate script)).lineCount = (LineIndex.ofText script).lineCount
      ↔ ∀ part ∈ parts.noted, '\n' ∉ part.1.source := by
    rw [← parts.feeds_eq_zero_iff]
    omega
  refine ⟨parts, fun other => Decomposition.of_iff, counted, same, ?_⟩
  intro kept line
  have single : ∀ note, Piece.comment note ∈ Piece.ofText script.toList → '\n' ∉ note.source := by
    intro note listed
    obtain ⟨part, noted, rfl⟩ := Decomposition.comment_mem_iff.mp listed
    exact same.mp kept part noted
  rw [LineIndex.lineText?_ofText, LineIndex.lineText?_ofText, text, split_annotateText single,
    List.getElem?_map, Option.map_map, Option.map_map]
  congr 1
  funext part
  exact (annotateText_trimReturns part).symm

-- What is left open on one line does not reach the comment on the next.
example : (LineIndex.ofText (annotate "a/*:\n/*: T */\r\nb")).lines.map Line.text
    = ["a/*:".toList, ": T\r".toList, "b".toList] := by
  decide +kernel

end TypeComment

end WatchfaceCheck
