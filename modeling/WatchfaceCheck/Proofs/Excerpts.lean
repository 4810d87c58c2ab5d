import Mathlib.Data.List.Forall2
import WatchfaceCheck.Proofs.Appearance
import WatchfaceCheck.Proofs.LineTables
namespace WatchfaceCheck

open Text

namespace ReportOptions

def quoting (suppression : Suppression) : ReportOptions :=
  { pretty := true, color := false, suppression }

end ReportOptions

namespace Snapshot

-- The units of every text, and its lines counted from one, are numbers of 32 bits.
def IsCounted (program : Snapshot) : Prop :=
  ∀ file, (utf16 (program.givenText file).toList).length + 1 < UInt32.size

end Snapshot

namespace Diagnostic

def Spans (d : Diagnostic) (unit : Nat) : Prop :=
  d.start.toNat ≤ unit ∧ unit < d.start.toNat + d.length.toNat

def positionIn (d : Diagnostic) (text : String) : Position :=
  (LineIndex.ofText text).position d.start

end Diagnostic

namespace Excerpt

def tildes (n : Nat) : String := String.ofList (List.replicate n '~')

def Quotes (e : Excerpt) (start unit : Nat) : Prop := start ≤ unit ∧ unit < start + units e.text

-- The units that a tilde stands below: there is a column for each unit of the quoted text.
def Underlines (e : Excerpt) (start unit : Nat) : Prop :=
  start + e.column ≤ unit ∧ unit < start + e.column + e.width

-- Tildes stand below what is spanned of the quoted text and nowhere else. If nothing of it is, there
-- is one tilde.
structure Marks (e : Excerpt) (d : Diagnostic) (start : Nat) : Prop where
  spanned : (∃ unit, d.Spans unit ∧ e.Quotes start unit) →
    (∀ unit, e.Underlines start unit ↔ d.Spans unit ∧ e.Quotes start unit)
      ∧ e.column + e.width ≤ units e.text
  unspanned : (¬ ∃ unit, d.Spans unit ∧ e.Quotes start unit) → e.width = 1

structure Printed (e : Excerpt) (text : String) : Prop where
  written : text = toString e.number ++ " | " ++ String.ofList e.text ++ "\n"
    ++ spaces (toString e.number).length ++ " | " ++ spaces e.column ++ tildes e.width ++ "\n"
  pair : IsLinePair text

structure IsOf (e : Excerpt) (text : String) (d : Diagnostic) : Prop where
  number : e.number = (d.positionIn text).line.toNat + 1
  quoted : (LineIndex.ofText text).lineText? (d.positionIn text).line.toNat = some e.text
  column : e.column = (d.positionIn text).column.toNat
  width : e.width = max 1 (min d.length.toNat
    (((LineIndex.ofText text).lineUnits (d.positionIn text).line.toNat).toNat
      - (d.positionIn text).column.toNat))
  marks : ∃ before after, text.toList = before ++ e.text ++ after
    ∧ units before + e.column = d.start.toNat ∧ e.Marks d (units before)
  printed : e.Printed (e.render .plain)

theorem printed_plain {e : Excerpt} (single : '\n' ∉ e.text) : e.Printed (e.render .plain) := by
  refine ⟨?_, isLinePair_render .plain single⟩
  have bar : " | " = " |" ++ " " := rfl
  simp only [render, gutter, Palette.paint, Palette.plain, Bool.false_eq_true, if_false, tildes,
    bar, String.append_assoc]

theorem marks_of_width {e : Excerpt} {d : Diagnostic} {start : Nat}
    (begins : start + e.column = d.start.toNat)
    (width : e.width = max 1 (min d.length.toNat (units e.text - e.column))) :
    e.Marks d start := by
  refine ⟨?_, ?_⟩
  · rintro ⟨one, spanned, quoted⟩
    unfold Diagnostic.Spans at spanned
    unfold Quotes at quoted
    refine ⟨?_, by omega⟩
    intro unit
    unfold Underlines Diagnostic.Spans Quotes
    omega
  · intro apart
    -- If anything spanned were quoted, the unit that the span starts with would be.
    have first : ¬ (d.Spans d.start.toNat ∧ e.Quotes start d.start.toNat) := fun both =>
      apart ⟨d.start.toNat, both⟩
    unfold Diagnostic.Spans Quotes at first
    omega

end Excerpt

namespace Located

variable {indexes : LineIndexes} {found : Located} {file text : String}

theorem fromOne_line (short : (utf16 text.toList).length + 1 < UInt32.size) (offset : UInt32) :
    (((LineIndex.ofText text).position offset).line + 1).toNat
      = ((LineIndex.ofText text).position offset).line.toNat + 1 := by
  have counted := Nat.lt_of_succ_lt short
  refine fromOneWrapped_of_small ?_
  have feeds : (LineIndex.unitsBefore text offset.toNat).count lineFeed
      ≤ (LineIndex.unitsBefore text offset.toNat).length := List.count_le_length
  have bound := (LineIndex.length_unitsBefore_le text offset.toNat).2
  rw [length_utf16] at short
  rw [fromOne, LineIndex.line_position_ofText counted]
  omega

theorem excerpt?_quotes (short : (utf16 text.toList).length + 1 < UInt32.size)
    (pointed : found.diagnostic.file = some file) (held : indexes.find? file = some (.ofText text))
    (placed : found.position = some (found.diagnostic.positionIn text)) (severity : Severity) :
    ∃ e, found.excerpt? indexes severity = some e ∧ e.IsOf text found.diagnostic := by
  have counted := Nat.lt_of_succ_lt short
  obtain ⟨quoted, before, after, got, whole, back⟩ :=
    LineIndex.position_quoted counted found.diagnostic.start
  change (LineIndex.ofText text).lineText? (found.diagnostic.positionIn text).line.toNat
    = some quoted at got
  have lineUnits := LineIndex.toNat_lineUnits counted got
  refine ⟨{
    number := ((found.diagnostic.positionIn text).line + 1).toNat
    text := quoted
    column := (found.diagnostic.positionIn text).column.toNat
    width := max 1 (min found.diagnostic.length.toNat
      (((LineIndex.ofText text).lineUnits (found.diagnostic.positionIn text).line.toNat).toNat
        - (found.diagnostic.positionIn text).column.toNat))
    severity }, ?_, fromOne_line short _, got, rfl, rfl, ⟨before, after, whole, back, ?_⟩, ?_⟩
  · simp only [excerpt?, pointed, placed, held, got, Option.bind_eq_bind, Option.bind_some,
      Option.pure_def]
  · refine Excerpt.marks_of_width back ?_
    rw [lineUnits]
  · exact Excerpt.printed_plain (LineIndex.newline_not_mem_lineText got)

def body (names : NameMap) (found : Located) : String :=
  String.join ((found.diagnostic.messages.takeWhile fun m =>
    m.depth.toNat < MessageLine.depthLimit).map
    (found.written fromOneWrapped names))

inductive Prints (program : Snapshot) (names : NameMap) (found : Located) : String → Prop where
  | below {file : String} {e : Excerpt} : found.diagnostic.file = some file →
      found.diagnostic.chain ≠ [] → e.IsOf (program.givenText file) found.diagnostic →
      Prints program names found (e.render .plain ++ found.body names)
  | alone : found.diagnostic.file = none ∨ found.diagnostic.chain = [] →
      Prints program names found (found.body names)

-- What it prints of several: nothing behind one that breaks it off.
inductive PrintsEach (program : Snapshot) (names : NameMap) : List Located → String → Prop where
  | none : PrintsEach program names [] ""
  | goesOn {one : Located} {others : List Located} {text rest : String} :
      one.diagnostic.IsShallow → Prints program names one text →
      PrintsEach program names others rest → PrintsEach program names (one :: others) (text ++ rest)
  | breaksOff {one : Located} {others : List Located} {text : String} :
      ¬ one.diagnostic.IsShallow → Prints program names one text →
      PrintsEach program names (one :: others) text

theorem PrintsEach.all {program : Snapshot} {names : NameMap} {found : List Located}
    {text : String} (each : PrintsEach program names found text)
    (shallow : ∀ one ∈ found, one.diagnostic.IsShallow) :
    ∃ texts, List.Forall₂ (Prints program names) found texts ∧ text = String.join texts := by
  induction each with
  | none => exact ⟨[], .nil, rfl⟩
  | goesOn _ prints _ ih =>
    obtain ⟨texts, others, rfl⟩ := ih fun one later => shallow one (List.mem_cons_of_mem _ later)
    exact ⟨_ :: texts, .cons prints others, (String.join_cons ..).symm⟩
  | breaksOff deep _ => exact absurd (shallow _ List.mem_cons_self) deep

theorem render_lines (names : NameMap) (found : Located) :
    Report.render .plain ⟨(found.lines names).map .message⟩ = found.body names := by
  have fits (m : Message) : ReportItem.fits (.message (found.messageLine names m))
      = decide (m.depth.toNat < MessageLine.depthLimit) :=
    Bool.eq_iff_iff.mpr (ReportItem.fits_message_iff.trans decide_eq_true_iff.symm)
  have formed (m : Message) : ReportItem.formed .plain (.message (found.messageLine names m))
      = found.written fromOneWrapped names m := found.formed_messageLine names m
  rw [Report.render_eq, Report.written, lines, List.map_map, List.takeWhile_map, List.map_map, body]
  simp only [Function.comp_def, fits, formed]

theorem excerptItems_of_no_file (none : found.diagnostic.file = none) :
    found.excerptItems indexes = [] := by
  unfold excerptItems
  split
  · rfl
  · simp [excerpt?, none]

theorem excerptItems_of_wordless (wordless : found.diagnostic.chain = []) :
    found.excerptItems indexes = [] := by
  simp [excerptItems, Diagnostic.messages, wordless]

theorem excerptItems_of_worded {head : Message} {rest : List Message}
    (worded : found.diagnostic.chain = head :: rest) : found.excerptItems indexes
      = (found.excerpt? indexes (head.severity found.phase)).toList.map .excerpt := by
  simp [excerptItems, Diagnostic.messages, Diagnostic.chainLimit, worded]

section

variable {program : Snapshot}

theorem find?_collected (listed : found ∈ (program.collect .empty).2)
    (pointed : found.diagnostic.file = some file) :
    (program.collect .empty).1.find? file = some (.ofText (program.givenText file)) := by
  rw [Snapshot.collect_eq] at listed ⊢
  rw [LineIndexes.find?_addProgram, Dictionary.find?_empty,
    if_pos (Snapshot.mem_mentioned listed pointed)]
  rfl

variable (counted : program.IsCounted) (suppression : Suppression) (names : NameMap)

include counted

theorem prints_collected (listed : found ∈ (program.collect .empty).2) :
    found.Prints program names (Report.render .plain
      ⟨found.items (.quoting suppression) names (program.collect .empty).1⟩) := by
  have whole : Report.isWhole ⟨found.excerptItems (program.collect .empty).1⟩ = true :=
    found.all_fits_preface (.quoting suppression) (program.collect .empty).1
  have rendered : Report.render .plain
      ⟨found.items (.quoting suppression) names (program.collect .empty).1⟩
      = Report.render .plain ⟨found.excerptItems (program.collect .empty).1⟩
        ++ found.body names := by
    rw [items_eq, ← render_lines]
    exact Report.render_append_of_whole .plain whole _
  rw [rendered]
  cases pointed : found.diagnostic.file with
  | none =>
    rw [excerptItems_of_no_file pointed]
    exact .alone (.inl pointed)
  | some file =>
    cases worded : found.diagnostic.chain with
    | nil =>
      rw [excerptItems_of_wordless worded]
      exact .alone (.inr worded)
    | cons head rest =>
      -- The collector has indexed the file, so neither the index nor the line is missing.
      have placed := program.collect_fresh listed
      rw [pointed, Option.map_some] at placed
      obtain ⟨e, quoted, due⟩ := excerpt?_quotes (counted file) pointed
        (find?_collected listed pointed) placed (head.severity found.phase)
      have alone : Report.render .plain ⟨found.excerptItems (program.collect .empty).1⟩
          = e.render .plain := by
        rw [excerptItems_of_worded worded, quoted]
        simp [Report.render, Report.texts, ReportItem.render?]
      rw [alone]
      exact .below pointed (by simp [worded]) due

-- By induction on the diagnostics: one whose messages all fit lets the report go on.
theorem printsEach_collected {several : List Located}
    (listed : ∀ one ∈ several, one ∈ (program.collect .empty).2) :
    PrintsEach program names several (Report.render .plain
      ⟨several.flatMap (items (.quoting suppression) names (program.collect .empty).1)⟩) := by
  induction several with
  | nil => exact .none
  | cons one others ih =>
    obtain ⟨first, listed⟩ := List.forall_mem_cons.mp listed
    have prints := prints_collected counted suppression names first
    have fits : Report.isWhole
        ⟨one.items (.quoting suppression) names (program.collect .empty).1⟩ = true
        ↔ one.diagnostic.IsShallow :=
      one.all_fits_items_iff (.quoting suppression) names (program.collect .empty).1
    rw [List.flatMap_cons, Report.render_append]
    by_cases shallow : one.diagnostic.IsShallow
    · rw [if_pos (fits.mpr shallow)]
      exact .goesOn shallow prints (ih listed)
    · rw [if_neg (mt fits.mp shallow)]
      exact .breaksOff shallow prints

end

end Located

namespace Report

-- The span goes on over the carriage return and the line feed, the tildes do not.
def wideSpan : Snapshot where
  syntactic := [.inFile "face.ts" 3 9 .error 1005 "';' expected."]
  sources := .ofList [("face.ts", "a😀bc\r\nd")]

def foundWide : Located :=
  ⟨.syntactic, .inFile "face.ts" 3 9 .error 1005 "';' expected.", some ⟨0, 3⟩⟩

theorem isCounted_wideSpan : wideSpan.IsCounted := by
  intro file
  have given : wideSpan.givenText file = "a😀bc\r\nd" ∨ wideSpan.givenText file = "" := by
    by_cases face : file = "face.ts"
    · subst face
      exact .inl rfl
    · refine .inr ?_
      simp [Snapshot.givenText, Snapshot.sourceText?, wideSpan, Dictionary.ofList,
        Dictionary.find?_insert, Dictionary.find?_empty, face]
  rcases given with text | text <;> rw [text] <;> decide

def hiddenSpan : Snapshot :=
  { wideSpan with
    syntactic := { category := .error, code := 1005, chain := [deepError] } :: wideSpan.syntactic }

end Report

end WatchfaceCheck
