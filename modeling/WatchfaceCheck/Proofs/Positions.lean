import Mathlib.Data.List.TakeWhile
import WatchfaceCheck.LineIndex
namespace WatchfaceCheck

namespace Text

def lineFeed : Nat := 0x0A

theorem lineFeed_not_mem_utf16Char {c : Char} (other : c ≠ '\n') : lineFeed ∉ utf16Char c := by
  unfold utf16Char lineFeed
  split
  · rw [List.mem_singleton]
    intro same
    exact other (Char.toNat_inj.mp same.symm)
  · simp only [List.mem_cons, List.not_mem_nil, or_false, not_or]
    omega

theorem utf16_lineFeed (rest : List Char) : utf16 ('\n' :: rest) = lineFeed :: utf16 rest := rfl

theorem utf16_cons (c : Char) (rest : List Char) : utf16 (c :: rest) = utf16Char c ++ utf16 rest :=
  List.flatMap_cons

def feedEnds (offset : Nat) : List Nat → List Nat
  | [] => []
  | unit :: rest =>
    if unit = lineFeed then (offset + 1) :: feedEnds (offset + 1) rest
    else feedEnds (offset + 1) rest

inductive StartsLine : List Nat → Nat → Prop where
  | first {units : List Nat} (none : lineFeed ∉ units) : StartsLine units 0
  | after {before rest : List Nat} (last : lineFeed ∉ rest) :
      StartsLine (before ++ lineFeed :: rest) (before.length + 1)

theorem feedEnds_append (offset : Nat) (a b : List Nat) :
    feedEnds offset (a ++ b) = feedEnds offset a ++ feedEnds (offset + a.length) b := by
  induction a generalizing offset with
  | nil => rfl
  | cons unit rest ih =>
    have next : offset + (rest.length + 1) = offset + 1 + rest.length := by omega
    simp only [List.cons_append, feedEnds, List.length_cons, next, ih]
    split <;> rfl

theorem feedEnds_eq_nil {units : List Nat} (offset : Nat) (none : lineFeed ∉ units) :
    feedEnds offset units = [] := by
  induction units generalizing offset with
  | nil => rfl
  | cons unit rest ih =>
    rw [List.mem_cons, not_or] at none
    rw [feedEnds, if_neg (Ne.symm none.1), ih _ none.2]

theorem mem_feedEnds {offset entry : Nat} {units : List Nat}
    (listed : entry ∈ feedEnds offset units) : offset < entry ∧ entry ≤ offset + units.length := by
  induction units generalizing offset with
  | nil => cases listed
  | cons unit rest ih =>
    have later : entry ∈ feedEnds (offset + 1) rest →
        offset < entry ∧ entry ≤ offset + (rest.length + 1) := by
      intro listed
      have bounds := ih listed
      omega
    rw [feedEnds] at listed
    split at listed
    · rcases List.mem_cons.mp listed with rfl | beyond
      · simp
      · exact later beyond
    · exact later listed

theorem feedEnds_ascending (offset : Nat) (units : List Nat) :
    (feedEnds offset units).Pairwise (· < ·) := by
  induction units generalizing offset with
  | nil => exact List.Pairwise.nil
  | cons unit rest ih =>
    rw [feedEnds]
    split
    · exact List.pairwise_cons.mpr ⟨fun entry listed => (mem_feedEnds listed).1, ih _⟩
    · exact ih _

theorem length_feedEnds (offset : Nat) (units : List Nat) :
    (feedEnds offset units).length = units.count lineFeed := by
  induction units generalizing offset with
  | nil => rfl
  | cons unit rest ih =>
    rw [feedEnds, List.count_cons]
    split
    · next feed => simp [feed, ih]
    · next other => simp [other, ih]

theorem split_at_last {α : Type} [DecidableEq α] {x : α} {list : List α} (listed : x ∈ list) :
    ∃ before rest, list = before ++ x :: rest ∧ x ∉ rest := by
  obtain ⟨front, back, reversed, fresh⟩ := List.eq_append_cons_of_mem (List.mem_reverse.mpr listed)
  refine ⟨back.reverse, front.reverse, ?_, by simpa using fresh⟩
  rw [← List.reverse_reverse list, reversed]
  simp

theorem startsLine_last (units : List Nat) :
    StartsLine units ((feedEnds 0 units).getLast?.getD 0) := by
  by_cases some : lineFeed ∈ units
  · obtain ⟨before, rest, rfl, last⟩ := split_at_last some
    have ends : feedEnds 0 (before ++ lineFeed :: rest)
        = feedEnds 0 before ++ [before.length + 1] := by
      rw [feedEnds_append, Nat.zero_add, feedEnds, if_pos rfl, feedEnds_eq_nil _ last]
    rw [ends, List.getLast?_concat]
    exact .after last
  · rw [feedEnds_eq_nil 0 some]
    exact .first some

theorem StartsLine.le_length {units : List Nat} {start : Nat} (starts : StartsLine units start) :
    start ≤ units.length := by
  cases starts with
  | first _ => exact Nat.zero_le _
  | after _ =>
    rw [List.length_append, List.length_cons]
    omega

end Text

open Text

namespace Position

def Before (p q : Position) : Prop := p.line < q.line ∨ p.line = q.line ∧ p.column < q.column

end Position

namespace LineIndex

def starts (index : LineIndex) : List Nat := index.lines.map fun line => line.start.toNat

-- By induction on the text: a line feed opens a line, and any other character only makes the first
-- line longer, so that every later start moves by its units. Counting in 32 bits commutes with that.
theorem starts_numbered (start : Nat) (text : List Char) :
    (numbered (UInt32.ofNat start) (split '\n' text)).map Line.start
      = (start :: feedEnds start (utf16 text)).map UInt32.ofNat := by
  induction text generalizing start with
  | nil => rfl
  | cons c rest ih =>
    by_cases feed : c = '\n'
    · subst feed
      have next : UInt32.ofNat start + unitCount [] + 1 = UInt32.ofNat (start + 1) := by
        rw [UInt32.ofNat_add, unitCount, units_nil, UInt32.add_assoc]
        rfl
      rw [split, if_pos rfl, numbered, List.map_cons, next, ih, utf16_lineFeed, feedEnds,
        if_pos rfl]
      rfl
    · have plain : feedEnds start (utf16 (c :: rest))
          = feedEnds (start + charUnits c) (utf16 rest) := by
        rw [utf16_cons, feedEnds_append, feedEnds_eq_nil _ (lineFeed_not_mem_utf16Char feed),
          List.nil_append, length_utf16Char]
      have later := ih (start + charUnits c)
      cases parts : split '\n' rest with
      | nil => exact absurd parts (split_ne_nil _ _)
      | cons part others =>
        rw [parts, numbered, List.map_cons, List.map_cons] at later
        have moved : UInt32.ofNat start + unitCount (c :: part)
            = UInt32.ofNat (start + charUnits c) + unitCount part := by
          simp only [unitCount, units_cons, UInt32.ofNat_add, UInt32.add_assoc]
        rw [split, if_neg feed, parts, plain, List.map_cons, ← (List.cons.inj later).2]
        simp only [numbered, List.map_cons, moved]

def startsUpTo (index : LineIndex) (offset : UInt32) : List Nat :=
  index.starts.takeWhile (· ≤ offset.toNat)

theorem startsUpTo_eq (index : LineIndex) (offset : UInt32) :
    index.startsUpTo offset = (index.upTo offset).map fun line => line.start.toNat := by
  unfold startsUpTo starts upTo
  rw [List.takeWhile_map]
  rfl

theorem line_position (index : LineIndex) (offset : UInt32) :
    (index.position offset).line = UInt32.ofNat ((index.startsUpTo offset).length - 1) := by
  rw [startsUpTo_eq, List.length_map]
  rfl

theorem column_position (index : LineIndex) (offset : UInt32) :
    (index.position offset).column.toNat
      = offset.toNat - (index.startsUpTo offset).getLast?.getD 0 := by
  rw [startsUpTo_eq, List.getLast?_map, position]
  cases last : (index.upTo offset).getLast? with
  | none => simp
  | some line =>
    have listed : line ∈ index.lines.takeWhile fun line => line.start ≤ offset :=
      List.mem_of_getLast? last
    have reached := List.mem_takeWhile_imp listed
    exact UInt32.toNat_sub_of_le _ _ (of_decide_eq_true reached)

def unitsBefore (text : String) (offset : Nat) : List Nat := (utf16 text.toList).take offset

theorem length_unitsBefore_le (text : String) (offset : Nat) :
    (unitsBefore text offset).length ≤ offset
      ∧ (unitsBefore text offset).length ≤ units text.toList := by
  unfold unitsBefore
  rw [List.length_take, length_utf16]
  omega

def lineStart (text : String) (offset : Nat) : Nat :=
  (feedEnds 0 (unitsBefore text offset)).getLast?.getD 0

theorem startsLine_lineStart (text : String) (offset : Nat) :
    StartsLine (unitsBefore text offset) (lineStart text offset) :=
  startsLine_last _

theorem lineStart_le (text : String) (offset : Nat) : lineStart text offset ≤ offset :=
  Nat.le_trans (startsLine_lineStart text offset).le_length (length_unitsBefore_le text offset).1

theorem starts_before {text : String} {offset start : Nat}
    (listed : start ∈ 0 :: feedEnds 0 (unitsBefore text offset)) : start ≤ offset := by
  rcases List.mem_cons.mp listed with rfl | feed
  · exact Nat.zero_le _
  · have bounds := mem_feedEnds feed
    have short := (length_unitsBefore_le text offset).1
    omega

section

variable {text : String} (short : (utf16 text.toList).length < UInt32.size)

include short

-- No start leaves the numbers of 32 bits.
theorem starts_ofText : (ofText text).starts = 0 :: feedEnds 0 (utf16 text.toList) := by
  have numbered := congrArg (List.map UInt32.toNat) (starts_numbered 0 text.toList)
  rw [List.map_map, List.map_map] at numbered
  have kept : (0 :: feedEnds 0 (utf16 text.toList)).map (UInt32.toNat ∘ UInt32.ofNat)
      = (0 :: feedEnds 0 (utf16 text.toList)).map id := by
    refine List.map_congr_left ?_
    intro start listed
    refine UInt32.toNat_ofNat_of_lt' ?_
    rcases List.mem_cons.mp listed with rfl | feed
    · decide
    · have bound := (mem_feedEnds feed).2
      omega
  rw [kept, List.map_id] at numbered
  exact numbered

theorem starts_parted (offset : Nat) :
    (ofText text).starts = (0 :: feedEnds 0 (unitsBefore text offset))
      ++ feedEnds offset ((utf16 text.toList).drop offset) := by
  have parted := feedEnds_append 0 (unitsBefore text offset) ((utf16 text.toList).drop offset)
  unfold unitsBefore at parted ⊢
  rw [List.take_append_drop, Nat.zero_add, List.length_take] at parted
  rw [starts_ofText short, parted, List.cons_append]
  by_cases within : offset ≤ (utf16 text.toList).length
  · rw [Nat.min_eq_left within]
  · rw [List.drop_eq_nil_of_le (by omega)]
    rfl

theorem startsUpTo_ofText (offset : UInt32) : (ofText text).startsUpTo offset
    = 0 :: feedEnds 0 (unitsBefore text offset.toNat) := by
  rw [startsUpTo, starts_parted short offset.toNat]
  refine takeWhile_run ?_ ?_
  · intro start listed
    exact decide_eq_true (starts_before listed)
  · intro start first
    have beyond := (mem_feedEnds (List.mem_of_head? first)).1
    exact decide_eq_false (by omega)

theorem line_position_ofText (offset : UInt32) : ((ofText text).position offset).line.toNat
    = (unitsBefore text offset.toNat).count lineFeed := by
  have feeds : (unitsBefore text offset.toNat).count lineFeed
      ≤ (unitsBefore text offset.toNat).length := List.count_le_length
  have bound := (length_unitsBefore_le text offset.toNat).1
  have word : offset.toNat < UInt32.size := offset.toNat_lt_size
  rw [line_position, startsUpTo_ofText short, List.length_cons, length_feedEnds,
    Nat.add_sub_cancel]
  exact UInt32.toNat_ofNat_of_lt' (by omega)

theorem column_position_ofText (offset : UInt32) :
    ((ofText text).position offset).column.toNat = offset.toNat - lineStart text offset.toNat := by
  rw [column_position, startsUpTo_ofText short, List.getLast?_cons]
  rfl

theorem starts_line (offset : UInt32) :
    (ofText text).starts[((ofText text).position offset).line.toNat]?
      = some (lineStart text offset.toNat) := by
  have last : (0 :: feedEnds 0 (unitsBefore text offset.toNat)).getLast?
      = some (lineStart text offset.toNat) := List.getLast?_cons
  rw [List.getLast?_eq_getElem?, List.length_cons, Nat.add_sub_cancel, length_feedEnds] at last
  rw [line_position_ofText short, starts_parted short offset.toNat, List.getElem?_append_left, last]
  rw [List.length_cons, length_feedEnds]
  exact Nat.lt_succ_self _

theorem starts_ascending : (ofText text).starts.Pairwise (· < ·) := by
  rw [starts_ofText short]
  exact List.pairwise_cons.mpr ⟨fun start listed => (mem_feedEnds listed).1, feedEnds_ascending _ _⟩

end

end LineIndex

-- What a search of an ascending table may answer: the place of the value, or else the place where
-- it is to be inserted.
inductive Finds (table : List Nat) (value : Nat) : Except Nat Nat → Prop where
  | hit {place : Nat} (held : table[place]? = some value) : Finds table value (.ok place)
  | miss {place : Nat} (within : place ≤ table.length)
      (below : ∀ entry ∈ table.take place, entry < value)
      (above : ∀ entry ∈ table.drop place, value < entry) : Finds table value (.error place)

namespace Finds

def count : Except Nat Nat → Nat
  | .ok place => place + 1
  | .error place => place

-- The table is cut after the place of the value, or where the value is to be inserted; what stands
-- before the cut is at most the value and what stands after it is more.
theorem count_eq {table : List Nat} {value : Nat} {answer : Except Nat Nat}
    (ascending : table.Pairwise (· < ·)) (found : Finds table value answer) :
    (table.takeWhile (· ≤ value)).length = count answer := by
  cases found with
  | @hit place held =>
    obtain ⟨within, entry⟩ := List.getElem?_eq_some_iff.mp held
    have parted : table = table.take place ++ value :: table.drop (place + 1) := by
      rw [← entry, List.getElem_cons_drop, List.take_append_drop]
    rw [parted] at ascending
    obtain ⟨-, tail, before⟩ := List.pairwise_append.mp ascending
    have after := (List.pairwise_cons.mp tail).1
    rw [parted, List.append_cons, takeWhile_run]
    · simp [count]
      omega
    · intro n listed
      rcases List.mem_append.mp listed with early | last
      · exact decide_eq_true (Nat.le_of_lt (before n early value (List.mem_cons_self ..)))
      · exact decide_eq_true (Nat.le_of_eq (List.mem_singleton.mp last))
    · intro n first
      have later := after n (List.mem_of_head? first)
      exact decide_eq_false (by omega)
  | @miss place within below above =>
    have cut : (table.take place ++ table.drop place).takeWhile (· ≤ value) = table.take place := by
      refine takeWhile_run ?_ ?_
      · intro n listed
        exact decide_eq_true (Nat.le_of_lt (below n listed))
      · intro n first
        have later := above n (List.mem_of_head? first)
        exact decide_eq_false (by omega)
    rw [List.take_append_drop] at cut
    rw [cut, List.length_take]
    exact Nat.min_eq_left within

-- The line that an answer leads to: a value between two entries belongs to the first of them.
def line : Except Nat Nat → Nat
  | .ok place => place
  | .error place => place - 1

theorem line_eq (answer : Except Nat Nat) : line answer = count answer - 1 := by
  cases answer <;> rfl

end Finds

namespace LineIndex

structure Placed (text : String) (offset : Nat) (p : Position) : Prop where
  line : p.line.toNat = (unitsBefore text offset).count lineFeed
  column : ∃ start, StartsLine (unitsBefore text offset) start
    ∧ (ofText text).starts[p.line.toNat]? = some start
    ∧ start ≤ offset ∧ p.column.toNat = offset - start ∧ start + p.column.toNat = offset

-- A search of the line starts has an answer, never the place in front of all of them, and every
-- answer leads to the line of the position.
structure Sought (text : String) (offset : Nat) (p : Position) : Prop where
  ends : ∃ answer, Finds (ofText text).starts offset answer
  leads : ∀ answer, Finds (ofText text).starts offset answer →
    answer ≠ .error 0 ∧ Finds.line answer = p.line.toNat

section

variable {text : String} (short : (utf16 text.toList).length < UInt32.size)

include short

theorem position_placed (offset : UInt32) :
    Placed text offset.toNat ((ofText text).position offset) := by
  have reached := lineStart_le text offset.toNat
  have column := column_position_ofText short offset
  exact ⟨line_position_ofText short offset, lineStart text offset.toNat,
    startsLine_lineStart text _, starts_line short offset, reached, column, by omega⟩

theorem search_ends (offset : Nat) : ∃ answer, Finds (ofText text).starts offset answer := by
  by_cases held : offset ∈ (ofText text).starts
  · obtain ⟨place, entry⟩ := List.mem_iff_getElem?.mp held
    exact ⟨.ok place, .hit entry⟩
  · refine ⟨.error (0 :: feedEnds 0 (unitsBefore text offset)).length, .miss ?_ ?_ ?_⟩
    · rw [starts_parted short offset, List.length_append]
      exact Nat.le_add_right _ _
    · intro start listed
      have present := List.mem_of_mem_take listed
      rw [starts_parted short offset, List.take_left] at listed
      have before := starts_before listed
      have other : start ≠ offset := fun same => held (same ▸ present)
      omega
    · intro start listed
      rw [starts_parted short offset, List.drop_left] at listed
      exact (mem_feedEnds listed).1

theorem position_sought (offset : UInt32) :
    Sought text offset.toNat ((ofText text).position offset) where
  ends := search_ends short offset.toNat
  leads := by
    intro answer found
    have counted := Finds.count_eq (starts_ascending short) found
    have upTo := startsUpTo_ofText short offset
    unfold startsUpTo at upTo
    rw [upTo, List.length_cons, length_feedEnds] at counted
    have line := line_position_ofText short offset
    have lead := Finds.line_eq answer
    refine ⟨?_, by omega⟩
    rintro rfl
    cases counted

-- A later offset has all line feeds of the earlier one before it. When it has no more of them, both
-- are on one line and the columns count from one start.
theorem position_before {one two : UInt32} (later : one < two) :
    ((ofText text).position one).Before ((ofText text).position two) := by
  obtain ⟨line, start, _, listed, _, _, back⟩ := position_placed short one
  obtain ⟨line', start', _, listed', _, _, back'⟩ := position_placed short two
  rw [UInt32.lt_iff_toNat_lt] at later
  have shorter : (unitsBefore text one.toNat).Sublist (unitsBefore text two.toNat) :=
    (List.take_prefix_take_left (Nat.le_of_lt later)).sublist
  have feeds := shorter.count_le lineFeed
  rw [← line, ← line'] at feeds
  rcases Nat.lt_or_eq_of_le feeds with earlier | same
  · exact .inl (UInt32.lt_iff_toNat_lt.mpr earlier)
  · rw [same, listed'] at listed
    cases listed
    exact .inr ⟨UInt32.toNat_inj.mp same, UInt32.lt_iff_toNat_lt.mpr (by omega)⟩

end

theorem position_counts_units (text : String) (short : (utf16 text.toList).length < UInt32.size) :
    (∀ offset : UInt32,
      Placed text offset.toNat ((ofText text).position offset)
        ∧ Sought text offset.toNat ((ofText text).position offset)
        ∧ (unitsBefore text offset.toNat).count lineFeed < UInt32.size)
      ∧ (ofText text).starts = 0 :: feedEnds 0 (utf16 text.toList)
      ∧ (∀ start ∈ 0 :: feedEnds 0 (utf16 text.toList), start < UInt32.size)
      ∧ ∀ one two : UInt32, one < two →
        ((ofText text).position one).Before ((ofText text).position two) := by
  refine ⟨?_, starts_ofText short, ?_, fun one two => position_before short⟩
  · intro offset
    have placed := position_placed short offset
    refine ⟨placed, position_sought short offset, ?_⟩
    rw [← placed.line]
    exact UInt32.toNat_lt_size _
  · intro start listed
    rw [← starts_ofText short] at listed
    obtain ⟨line, -, rfl⟩ := List.mem_map.mp listed
    exact line.start.toNat_lt_size

-- Offsets within a surrogate pair, on a line feed and past the end.
theorem position_counts_units_pair : (utf16 "a😀\r\n\nb".toList).length < UInt32.size
    ∧ Placed "a😀\r\n\nb" 2 ⟨0, 2⟩ ∧ Placed "a😀\r\n\nb" 5 ⟨1, 0⟩ ∧ Placed "a😀\r\n\nb" 9 ⟨2, 3⟩ := by
  have short : (utf16 "a😀\r\n\nb".toList).length < UInt32.size := by decide
  have placed := (position_counts_units "a😀\r\n\nb" short).1
  exact ⟨short, (placed 2).1, (placed 5).1, (placed 9).1⟩

end LineIndex

end WatchfaceCheck
