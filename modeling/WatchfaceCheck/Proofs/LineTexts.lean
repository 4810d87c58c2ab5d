import Mathlib.Data.List.DropRight
import WatchfaceCheck.LineIndex
namespace WatchfaceCheck

namespace Text

variable {separator : Char} {text part : List Char} {others : List (List Char)}

theorem split_append_left {front : List Char} (whole : separator ∉ front)
    (parts : split separator text = part :: others) :
    split separator (front ++ text) = (front ++ part) :: others := by
  induction front with
  | nil => exact parts
  | cons c rest ih =>
    rw [List.mem_cons, not_or] at whole
    rw [List.cons_append, split, if_neg (Ne.symm whole.1), ih whole.2]
    rfl

theorem split_front (parts : split separator text = part :: others) :
    ∃ rest, text = part ++ rest := by
  have joined := joinWith_split separator text
  rw [parts] at joined
  cases others with
  | nil => exact ⟨[], by simpa [joinWith] using joined.symm⟩
  | cons next more => exact ⟨_, joined.symm⟩

theorem not_mem_of_mem_split (listed : part ∈ split separator text) : separator ∉ part := by
  induction text generalizing part with
  | nil =>
    rw [List.mem_singleton.mp listed]
    exact List.not_mem_nil
  | cons c rest ih =>
    simp only [split] at listed
    split at listed
    · rcases List.mem_cons.mp listed with rfl | later
      · exact List.not_mem_nil
      · exact ih later
    · next other =>
      split at listed
      · next none => exact absurd none (split_ne_nil separator rest)
      · next first others parts =>
        rw [parts] at ih
        rcases List.mem_cons.mp listed with rfl | later
        · rw [List.mem_cons, not_or]
          exact ⟨Ne.symm other, ih (List.mem_cons_self ..)⟩
        · exact ih (List.mem_cons_of_mem _ later)

end Text

open Text

namespace LineIndex

theorem trimReturns_return (line : List Char) :
    trimReturns (line ++ ['\r']) = trimReturns line :=
  List.rdropWhile_concat_pos _ line '\r' rfl

theorem mem_of_mem_trimReturns {c : Char} {line : List Char} (listed : c ∈ trimReturns line) :
    c ∈ line :=
  (List.rdropWhile_prefix (· == '\r') line).subset listed

theorem trimReturns_of_last {line : List Char} (last : line.getLast? ≠ some '\r') :
    trimReturns line = line := by
  refine List.rdropWhile_eq_self_iff.mpr ?_
  intro some same
  rw [List.getLast?_eq_some_getLast some, beq_iff_eq.mp same] at last
  exact last rfl

theorem texts_numbered (start : UInt32) (parts : List (List Char)) :
    (numbered start parts).map Line.text = parts := by
  induction parts generalizing start with
  | nil => rfl
  | cons text others ih => rw [numbered, List.map_cons, ih]

theorem texts_ofText (text : String) : (ofText text).lines.map Line.text = split '\n' text.toList :=
  texts_numbered 0 _

theorem lineCount_ofText (text : String) :
    (ofText text).lineCount = text.toList.count '\n' + 1 := by
  rw [← length_split, ← texts_ofText, List.length_map]
  rfl

theorem lineText?_ofText (text : String) (line : Nat) :
    (ofText text).lineText? line = (split '\n' text.toList)[line]?.map trimReturns := by
  rw [← texts_ofText, List.getElem?_map, Option.map_map]
  rfl

theorem newline_not_mem_lineText {text : String} {line : Nat} {quoted : List Char}
    (got : (ofText text).lineText? line = some quoted) : '\n' ∉ quoted := by
  rw [lineText?_ofText, Option.map_eq_some_iff] at got
  obtain ⟨part, listed, rfl⟩ := got
  intro inside
  exact not_mem_of_mem_split (List.mem_of_getElem? listed) (mem_of_mem_trimReturns inside)

end LineIndex

end WatchfaceCheck
