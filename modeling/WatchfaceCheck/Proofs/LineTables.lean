import WatchfaceCheck.Proofs.LinePlaces
namespace WatchfaceCheck

namespace Text

theorem utf16_append (a b : List Char) : utf16 (a ++ b) = utf16 a ++ utf16 b :=
  List.flatMap_append

end Text

open Text

structure LineStart where
  unit : Nat
  byte : Nat
deriving DecidableEq, Repr

namespace LineStart

def behind (place : LineStart) (text : List Char) : LineStart :=
  ⟨place.unit + units text, place.byte + (String.ofList text).utf8ByteSize⟩

theorem behind_cons (place : LineStart) (c : Char) (text : List Char) : place.behind (c :: text)
    = behind ⟨place.unit + charUnits c, place.byte + c.utf8Size⟩ text := by
  have size : (String.ofList (c :: text)).utf8ByteSize
      = c.utf8Size + (String.ofList text).utf8ByteSize := by
    rw [← List.singleton_append, String.ofList_append, String.utf8ByteSize_append]
    simp
  simp only [behind, size, units_cons, Nat.add_assoc]

theorem behind_append (place : LineStart) (a b : List Char) :
    place.behind (a ++ b) = (place.behind a).behind b := by
  simp only [behind, units_append, String.ofList_append, String.utf8ByteSize_append, Nat.add_assoc]

theorem behind_origin (text : List Char) :
    behind ⟨0, 0⟩ text = ⟨units text, (String.ofList text).utf8ByteSize⟩ := by
  simp only [behind, Nat.zero_add]

end LineStart

namespace LineIndex

def startsFrom (place : LineStart) : List Char → List LineStart
  | [] => []
  | c :: rest =>
    let next : LineStart := ⟨place.unit + charUnits c, place.byte + c.utf8Size⟩
    if c = '\n' then ⟨next.unit, place.byte + 1⟩ :: startsFrom next rest
    else startsFrom next rest

def table (text : String) : List LineStart := ⟨0, 0⟩ :: startsFrom ⟨0, 0⟩ text.toList

theorem startsFrom_feed (place : LineStart) (rest : List Char) :
    startsFrom place ('\n' :: rest)
      = ⟨place.unit + 1, place.byte + 1⟩ :: startsFrom ⟨place.unit + 1, place.byte + 1⟩ rest := rfl

theorem startsFrom_part {part : List Char} (place : LineStart) (whole : '\n' ∉ part)
    (rest : List Char) :
    startsFrom place (part ++ rest) = startsFrom (place.behind part) rest := by
  induction part generalizing place with
  | nil => rfl
  | cons c others ih =>
    rw [List.mem_cons, not_or] at whole
    rw [List.cons_append, startsFrom, if_neg (Ne.symm whole.1), ih _ whole.2, place.behind_cons]

theorem units_startsFrom (place : LineStart) (text : List Char) :
    (startsFrom place text).map LineStart.unit = feedEnds place.unit (utf16 text) := by
  induction text generalizing place with
  | nil => rfl
  | cons c rest ih =>
    rw [utf16_cons, feedEnds_append, length_utf16Char, startsFrom]
    split
    · next feed =>
      subst feed
      rw [List.map_cons, ih]
      rfl
    · next other =>
      rw [ih, feedEnds_eq_nil _ (lineFeed_not_mem_utf16Char other), List.nil_append]

theorem units_table {text : String} (short : (utf16 text.toList).length < UInt32.size) :
    (table text).map LineStart.unit = (ofText text).starts := by
  rw [table, List.map_cons, units_startsFrom, starts_ofText short]

theorem start_of_table {text : String} (short : (utf16 text.toList).length < UInt32.size)
    {line : Nat} {place : LineStart} (listed : (table text)[line]? = some place) :
    (ofText text).starts[line]? = some place.unit := by
  rw [← units_table short, List.getElem?_map, listed]
  rfl

-- What the table holds of a part: its own start, and behind it either nothing, where the text ends,
-- or the start of the next part, one line feed further.
structure Holds (starts : List LineStart) (place : LineStart) (line : Nat)
    (before part after : List Char) : Prop where
  start : starts[line]? = some (place.behind before)
  behind : after = [] ∧ starts[line + 1]? = none
    ∨ ∃ rest, after = '\n' :: rest
      ∧ starts[line + 1]? = some (place.behind (before ++ part ++ ['\n']))

-- By induction on the parts: the first of them has no line feed, and behind the line feed that
-- follows it the table goes on as that of the other parts.
theorem startsFrom_placed {parts : List (List Char)} (whole : ∀ part ∈ parts, '\n' ∉ part)
    {place : LineStart} {line : Nat} {part : List Char} (listed : parts[line]? = some part) :
    ∃ before after, joinWith '\n' parts = before ++ part ++ after
      ∧ Holds (place :: startsFrom place (joinWith '\n' parts)) place line before part after := by
  induction parts generalizing place line with
  | nil => cases listed
  | cons first others ih =>
    obtain ⟨feedless, whole⟩ := List.forall_mem_cons.mp whole
    cases others with
    | nil =>
      -- The last part is followed by no line feed, and the table ends with its start.
      have only : startsFrom place (joinWith '\n' [first]) = [] := by
        have read := startsFrom_part place feedless []
        rwa [List.append_nil] at read
      rw [only]
      cases line with
      | succ line => cases listed
      | zero =>
        cases listed
        exact ⟨[], [], (List.append_nil _).symm, rfl, .inl ⟨rfl, rfl⟩⟩
    | cons next more =>
      have feed : (place.behind first).behind ['\n'] = place.behind (first ++ ['\n']) :=
        (place.behind_append first ['\n']).symm
      have others : startsFrom place (joinWith '\n' (first :: next :: more))
          = place.behind (first ++ ['\n'])
            :: startsFrom (place.behind (first ++ ['\n'])) (joinWith '\n' (next :: more)) := by
        rw [joinWith_next, startsFrom_part place feedless, startsFrom_feed, ← feed]
        rfl
      rw [others, joinWith_next]
      cases line with
      | zero =>
        cases listed
        exact ⟨[], _, rfl, rfl, .inr ⟨_, rfl, rfl⟩⟩
      | succ line =>
        obtain ⟨before, after, joined, start, behind⟩ := ih whole listed
        refine ⟨first ++ ['\n'] ++ before, after, by simp [joined], ?_, ?_⟩
        · rw [place.behind_append (first ++ ['\n']) before]
          exact start
        · rcases behind with ends | ⟨rest, goes, second⟩
          · exact .inl ends
          · refine .inr ⟨rest, goes, ?_⟩
            rw [List.append_assoc, List.append_assoc, place.behind_append (first ++ ['\n']),
              ← List.append_assoc]
            exact second

def Slices (text : String) (start stop : Nat) (piece : List Char) : Prop :=
  ∃ (first last : text.Pos) (ordered : first ≤ last),
    first.offset.byteIdx = start ∧ last.offset.byteIdx = stop
      ∧ (text.slice first last ordered).copy = String.ofList piece

theorem slices_append {text : String} {before piece after : List Char}
    (whole : text.toList = before ++ piece ++ after) :
    Slices text (String.ofList before).utf8ByteSize (String.ofList (before ++ piece)).utf8ByteSize
      piece := by
  have split : text = String.ofList before ++ (String.ofList piece ++ String.ofList after) := by
    rw [← String.ofList_append, ← String.ofList_append, ← List.append_assoc, ← whole,
      String.ofList_toList]
  have first : String.Pos.Raw.IsValid text (String.ofList before).rawEndPos :=
    String.Pos.Raw.isValid_iff_exists_append.mpr ⟨_, _, split, rfl⟩
  have last : String.Pos.Raw.IsValid text (String.ofList (before ++ piece)).rawEndPos := by
    refine String.Pos.Raw.isValid_iff_exists_append.mpr ⟨_, String.ofList after, ?_, rfl⟩
    rw [split, String.ofList_append, String.append_assoc]
  obtain ⟨ordered, cut⟩ := String.copy_slice_eq_iff_splits.mpr
    ⟨String.ofList before, String.ofList after, (⟨split, rfl⟩ : (text.pos _ first).Splits _ _),
      (⟨by rw [split, String.append_assoc], by simp⟩ : (text.pos _ last).Splits _ _)⟩
  exact ⟨_, _, ordered, rfl, rfl, cut⟩

-- The bytes of a line as the table has them: up to the line feed before the next line, or to the end.
inductive Spans (text : String) (line : Nat) : Nat → Nat → Prop
  | inner {here next : LineStart} {stop : Nat} (first : (table text)[line]? = some here)
      (second : (table text)[line + 1]? = some next) (feed : stop + 1 = next.byte) :
      Spans text line here.byte stop
  | last {here : LineStart} (first : (table text)[line]? = some here)
      (none : (table text)[line + 1]? = none) : Spans text line here.byte text.utf8ByteSize

theorem spans_of_holds {text : String} {line : Nat} {before part after : List Char}
    (whole : text.toList = before ++ part ++ after)
    (holds : Holds (table text) ⟨0, 0⟩ line before part after) :
    Spans text line (String.ofList before).utf8ByteSize
      (String.ofList (before ++ part)).utf8ByteSize := by
  have start : (table text)[line]? = some ⟨units before, (String.ofList before).utf8ByteSize⟩ := by
    rw [← LineStart.behind_origin]
    exact holds.start
  rcases holds.behind with ⟨rfl, ends⟩ | ⟨rest, -, goes⟩
  · have size : text.utf8ByteSize = (String.ofList (before ++ part)).utf8ByteSize := by
      rw [← String.ofList_toList (s := text), whole, List.append_nil]
    rw [← size]
    exact .last start ends
  · refine .inner start goes ?_
    have feed : String.ofList (before ++ part ++ ['\n']) = String.ofList (before ++ part) ++ "\n" :=
      String.ofList_append
    rw [LineStart.behind_origin, feed, String.utf8ByteSize_append]
    rfl

theorem trimReturns_parted (line : List Char) :
    (∃ returns, line = trimReturns line ++ List.replicate returns '\r')
      ∧ (trimReturns line).getLast? ≠ some '\r' := by
  constructor
  · refine ⟨(line.rtakeWhile (· == '\r')).length, ?_⟩
    have dropped : line.rtakeWhile (· == '\r')
        = List.replicate (line.rtakeWhile (· == '\r')).length '\r' := by
      refine List.eq_replicate_iff.mpr ⟨rfl, fun c listed => ?_⟩
      have same := List.mem_rtakeWhile_imp listed
      exact beq_iff_eq.mp same
    rw [← dropped]
    exact (List.rdropWhile_append_rtakeWhile ..).symm
  · intro last
    have kept : trimReturns line ≠ [] := List.ne_nil_of_mem (List.mem_of_getLast? last)
    rw [List.getLast?_eq_some_getLast kept, Option.some.injEq] at last
    exact List.rdropWhile_last_not (· == '\r') line kept (beq_iff_eq.mpr last)

structure Parted (text : String) (parts : List (List Char)) : Prop where
  some : parts ≠ []
  joined : joinWith '\n' parts = text.toList
  feedless : ∀ part ∈ parts, '\n' ∉ part

theorem parted_iff {text : String} {parts : List (List Char)} :
    Parted text parts ↔ parts = split '\n' text.toList := by
  constructor
  · intro parted
    rw [← parted.joined, split_joinWith parted.some parted.feedless]
  · rintro rfl
    exact ⟨split_ne_nil _ _, joinWith_split _ _, fun part => not_mem_of_mem_split⟩

theorem table_placed {text : String} {line : Nat} {part : List Char}
    (listed : (split '\n' text.toList)[line]? = some part) :
    ∃ before after, text.toList = before ++ part ++ after
      ∧ Holds (table text) ⟨0, 0⟩ line before part after := by
  obtain ⟨before, after, joined, holds⟩ :=
    startsFrom_placed (fun part => not_mem_of_mem_split) listed
  rw [joinWith_split] at joined holds
  exact ⟨before, after, joined, holds⟩

theorem length_parts (text : String) :
    (split '\n' text.toList).length = (ofText text).lineCount := by
  rw [← texts_ofText, List.length_map]
  rfl

theorem lineText?_eq_none {text : String} {line : Nat}
    (unlisted : (split '\n' text.toList)[line]? = none) : (ofText text).lineText? line = none := by
  rw [lineText?_ofText, unlisted]
  rfl

structure LineTold (text : String) (line : Nat) (part : List Char) : Prop where
  quoted : ∃ quoted returns, part = quoted ++ List.replicate returns '\r'
    ∧ quoted.getLast? ≠ some '\r' ∧ (ofText text).lineText? line = some quoted
    ∧ ((ofText text).lineUnits line).toNat = (utf16 quoted).length
  sliced : ∃ start stop, Spans text line start stop ∧ Slices text start stop part

def UnitAt (part : List Char) (column unit : Nat) : Prop :=
  (utf16 part)[column]? = some unit ∨ column = (utf16 part).length ∧ unit = lineFeed

theorem units_le_of_infix {a b : List Char} (inside : a <:+: b) : units a ≤ units b := by
  obtain ⟨before, after, rfl⟩ := inside
  rw [units_append, units_append]
  omega

section

variable {text : String} (short : (utf16 text.toList).length < UInt32.size)

include short

theorem position_before_next {offset : UInt32} {next : Nat}
    (listed : (ofText text).starts[((ofText text).position offset).line.toNat + 1]? = some next) :
    offset.toNat < next := by
  rw [line_position_ofText short, starts_parted short offset.toNat,
    List.getElem?_append_right] at listed
  · exact (mem_feedEnds (List.mem_of_getElem? listed)).1
  · rw [List.length_cons, length_feedEnds]

theorem toNat_lineUnits {line : Nat} {quoted : List Char}
    (got : (ofText text).lineText? line = some quoted) :
    ((ofText text).lineUnits line).toNat = units quoted := by
  have part := got
  rw [lineText?_ofText, Option.map_eq_some_iff] at part
  obtain ⟨part, listed, rfl⟩ := part
  obtain ⟨before, after, whole, -⟩ := table_placed listed
  have inside := units_le_of_infix ⟨before, after, whole.symm⟩
  have shorter := units_le_of_infix (List.rdropWhile_prefix (· == '\r') part).isInfix
  rw [length_utf16] at short
  rw [lineUnits, got]
  exact UInt32.toNat_ofNat_of_lt' (Nat.lt_of_le_of_lt (Nat.le_trans shorter inside) short)

theorem line_told {line : Nat} {part : List Char}
    (listed : (split '\n' text.toList)[line]? = some part) : LineTold text line part := by
  have quoted : (ofText text).lineText? line = some (trimReturns part) := by
    rw [lineText?_ofText, listed]
    rfl
  obtain ⟨⟨returns, whole⟩, last⟩ := trimReturns_parted part
  obtain ⟨before, after, parted, holds⟩ := table_placed listed
  refine ⟨⟨trimReturns part, returns, whole, last, quoted, ?_⟩,
    _, _, spans_of_holds parted holds, slices_append parted⟩
  rw [toNat_lineUnits short quoted, length_utf16]

theorem unit_told {offset : UInt32} {unit : Nat}
    (held : (utf16 text.toList)[offset.toNat]? = some unit) :
    ∃ part, (split '\n' text.toList)[((ofText text).position offset).line.toNat]? = some part
      ∧ UnitAt part ((ofText text).position offset).column.toNat unit := by
  obtain ⟨line, listed, back⟩ := position_in_line short offset
  have part : (split '\n' text.toList)[((ofText text).position offset).line.toNat]?
      = some line.text := by
    rw [← texts_ofText, List.getElem?_map, listed]
    rfl
  obtain ⟨before, after, whole, start, behind⟩ := table_placed part
  -- Both tables hold the start of the line, one of them in units and bytes.
  have begins : line.start.toNat = units before := by
    have noted := start_of_table short start
    rw [starts, List.getElem?_map, listed, LineStart.behind_origin] at noted
    exact Option.some.inj noted
  refine ⟨line.text, part, ?_⟩
  have units : (utf16 text.toList)[offset.toNat]?
      = (utf16 line.text ++ utf16 after)[((ofText text).position offset).column.toNat]? := by
    rw [whole, utf16_append, utf16_append, List.append_assoc, List.getElem?_append_right]
    · rw [length_utf16, ← begins]
      congr 1
      omega
    · rw [length_utf16]
      omega
  rw [units] at held
  by_cases inside : ((ofText text).position offset).column.toNat < (utf16 line.text).length
  · rw [List.getElem?_append_left inside] at held
    exact .inl held
  · rw [List.getElem?_append_right (Nat.le_of_not_lt inside)] at held
    rcases behind with ⟨rfl, -⟩ | ⟨rest, rfl, next⟩
    · cases held
    · have before_next := position_before_next short (start_of_table short next)
      have feed : charUnits '\n' = 1 := rfl
      simp only [LineStart.behind_origin, units_append, units_cons, units_nil, feed] at before_next
      rw [length_utf16] at inside
      -- Beyond the part, but before the next line: the unit is the line feed between them.
      have atFeed : ((ofText text).position offset).column.toNat = Text.units line.text := by omega
      rw [atFeed, length_utf16, Nat.sub_self, utf16_lineFeed] at held
      exact .inr ⟨atFeed.trans (length_utf16 _).symm, (Option.some.inj held).symm⟩

theorem line_lt_lineCount (offset : UInt32) :
    ((ofText text).position offset).line.toNat < (ofText text).lineCount := by
  obtain ⟨line, listed, -⟩ := position_in_line short offset
  exact (List.getElem?_eq_some_iff.mp listed).1

end

-- Every text has just one list of parts. The lines are these parts, found by units and by bytes
-- alike; there are no others, and every offset of the text stands in one.
theorem lines_agree {text : String} (short : (utf16 text.toList).length < UInt32.size) :
    ∃ parts, (∀ other, Parted text other ↔ other = parts)
      ∧ parts.length = (ofText text).lineCount
      ∧ (ofText text).lineCount = text.toList.count '\n' + 1
      ∧ (table text).map LineStart.unit = (ofText text).starts
      ∧ (∀ line part, parts[line]? = some part → LineTold text line part)
      ∧ (∀ line, (ofText text).lineCount ≤ line →
        (ofText text).lineText? line = none ∧ (ofText text).lineUnits line = 0)
      ∧ ∀ offset : UInt32, ((ofText text).position offset).line.toNat < (ofText text).lineCount
        ∧ ∀ unit, (utf16 text.toList)[offset.toNat]? = some unit →
          ∃ part, parts[((ofText text).position offset).line.toNat]? = some part
            ∧ UnitAt part ((ofText text).position offset).column.toNat unit := by
  refine ⟨split '\n' text.toList, fun other => parted_iff, length_parts text,
    lineCount_ofText text, units_table short, fun line part => line_told short, ?_, ?_⟩
  · intro line beyond
    rw [← length_parts] at beyond
    rw [lineUnits, lineText?_eq_none (List.getElem?_eq_none beyond)]
    exact ⟨rfl, rfl⟩
  · exact fun offset => ⟨line_lt_lineCount short offset, fun unit => unit_told short⟩

-- Characters of two and of four bytes, and returns before a line feed.
theorem lines_agree_on_wide : (utf16 "é\r\r\n😀".toList).length < UInt32.size
    ∧ LineTold "é\r\r\n😀" 0 ['é', '\r', '\r'] ∧ LineTold "é\r\r\n😀" 1 ['😀'] := by
  have short : (utf16 "é\r\r\n😀".toList).length < UInt32.size := by decide
  obtain ⟨parts, only, -, -, -, told, -⟩ := lines_agree short
  have parted : Parted "é\r\r\n😀" [['é', '\r', '\r'], ['😀']] :=
    ⟨List.cons_ne_nil _ _, by decide, by decide⟩
  obtain rfl := (only _).mp parted
  exact ⟨short, told 0 _ rfl, told 1 _ rfl⟩

end LineIndex

end WatchfaceCheck
