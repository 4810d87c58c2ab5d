import WatchfaceCheck.Proofs.LineTexts
import WatchfaceCheck.Proofs.Positions
namespace WatchfaceCheck

open Text

namespace LineIndex

structure Stands (text : List Char) (line : Line) (before after : List Char) : Prop where
  whole : text = before ++ line.text ++ after
  start : line.start = unitCount before

theorem unitCount_append (a b : List Char) : unitCount (a ++ b) = unitCount a + unitCount b := by
  rw [unitCount, units_append, UInt32.ofNat_add]
  rfl

-- By induction on the parts. A part pushes the later lines back by its own units and by that of the
-- line feed behind it.
theorem numbered_placed {start : UInt32} {parts : List (List Char)} {line : Line}
    (listed : line ∈ numbered start parts) : ∃ before after,
      joinWith '\n' parts = before ++ line.text ++ after ∧ line.start = start + unitCount before := by
  induction parts generalizing start with
  | nil => cases listed
  | cons part others ih =>
    rw [numbered] at listed
    rcases List.mem_cons.mp listed with rfl | later
    · have none : start + unitCount [] = start := UInt32.add_zero start
      cases others with
      | nil => exact ⟨[], [], by simp [joinWith], none.symm⟩
      | cons next more => exact ⟨[], '\n' :: joinWith '\n' (next :: more), rfl, none.symm⟩
    · obtain ⟨before, after, joined, begins⟩ := ih later
      cases others with
      | nil => cases later
      | cons next more =>
        refine ⟨part ++ '\n' :: before, after, ?_, ?_⟩
        · have spread : joinWith '\n' (part :: next :: more)
              = part ++ '\n' :: joinWith '\n' (next :: more) := rfl
          rw [spread, joined]
          simp
        · have feed : unitCount ['\n'] = 1 := rfl
          rw [begins, unitCount_append, ← List.singleton_append, unitCount_append, feed]
          simp only [UInt32.add_assoc]

theorem lines_placed {text : String} {line : Line} (listed : line ∈ (ofText text).lines) :
    ∃ before after, Stands text.toList line before after := by
  obtain ⟨before, after, joined, begins⟩ := numbered_placed listed
  rw [joinWith_split] at joined
  exact ⟨before, after, joined, begins.trans (UInt32.zero_add _)⟩

theorem Stands.toNat_start {text : List Char} {line : Line} {before after : List Char}
    (stands : Stands text line before after) (short : (utf16 text).length < UInt32.size) :
    line.start.toNat = units before := by
  rw [length_utf16, stands.whole, units_append, units_append] at short
  rw [stands.start]
  exact UInt32.toNat_ofNat_of_lt' (by omega)

section

variable {text : String} (short : (utf16 text.toList).length < UInt32.size)

include short

theorem position_in_line (offset : UInt32) : ∃ line,
    (ofText text).lines[((ofText text).position offset).line.toNat]? = some line
      ∧ line.start.toNat + ((ofText text).position offset).column.toNat = offset.toNat := by
  obtain ⟨_, start, _, listed, _, _, back⟩ := position_placed short offset
  rw [starts, List.getElem?_map, Option.map_eq_some_iff] at listed
  obtain ⟨line, held, rfl⟩ := listed
  exact ⟨line, held, back⟩

-- The same of the line as it is quoted: the carriage returns that are dropped stand behind it.
theorem position_quoted (offset : UInt32) : ∃ quoted before after,
    (ofText text).lineText? ((ofText text).position offset).line.toNat = some quoted
      ∧ text.toList = before ++ quoted ++ after
      ∧ units before + ((ofText text).position offset).column.toNat = offset.toNat := by
  obtain ⟨line, held, back⟩ := position_in_line short offset
  obtain ⟨before, after, stands⟩ := lines_placed (List.mem_of_getElem? held)
  obtain ⟨returns, trimmed⟩ : trimReturns line.text <+: line.text :=
    List.rdropWhile_prefix (· == '\r') line.text
  refine ⟨trimReturns line.text, before, returns ++ after, ?_, ?_, ?_⟩
  · rw [lineText?, held]
    rfl
  · rw [stands.whole]
    nth_rewrite 1 [← trimmed]
    simp
  · rw [← stands.toNat_start short]
    exact back

end

end LineIndex

end WatchfaceCheck
