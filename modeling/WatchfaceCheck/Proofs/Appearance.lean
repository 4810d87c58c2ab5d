import WatchfaceCheck.Proofs.Collecting
import WatchfaceCheck.Proofs.Coloring
import WatchfaceCheck.Proofs.LineTexts
import WatchfaceCheck.Proofs.PlainReport
import WatchfaceCheck.Proofs.Verdict
namespace WatchfaceCheck

open Text Coloring

theorem not_mem_decimal {c : Char} (other : c.isDigit = false) (n : Nat) :
    c ∉ (toString n).toList := by
  rw [Nat.toString_eq_repr, Nat.toList_repr]
  intro listed
  have digit := Nat.isDigit_of_mem_toDigits (by decide) (by decide) listed
  rw [other] at digit
  cases digit

theorem not_mem_replicate {c repeated : Char} (other : c ≠ repeated) (n : Nat) :
    c ∉ (String.ofList (List.replicate n repeated)).toList := by
  rw [String.toList_ofList]
  intro listed
  exact other (List.eq_of_mem_replicate listed)

namespace Excerpt

theorem not_mem_spaces {c : Char} (visible : c ≠ ' ') (n : Nat) : c ∉ (spaces n).toList :=
  not_mem_replicate visible n

theorem not_mem_gutter {c : Char} {content : String} (bar : c ≠ '|') (blank : c ≠ ' ')
    (outside : c ∉ content.toList) : c ∉ (content ++ " |").toList := by
  simp [outside, bar, blank]

theorem shows_gutter {content : String} (clean : escape ∉ content.toList) :
    Shows (gutter .colored content) (gutter .plain content) :=
  Palette.shows_paint .muted (not_mem_gutter (by decide) (by decide) clean)

theorem shows_render {e : Excerpt} (clean : escape ∉ e.text) :
    Shows (e.render .colored) (e.render .plain) := by
  have number : Shows (gutter .colored (toString e.number)) (gutter .plain (toString e.number)) :=
    shows_gutter (not_mem_decimal (by decide) _)
  have margin (n : Nat) : Shows (gutter .colored (spaces n)) (gutter .plain (spaces n)) :=
    shows_gutter (not_mem_spaces (by decide) n)
  have blank : Shows " " " " := .of_clean (by decide)
  have feed : Shows "\n" "\n" := .of_clean (by decide)
  have quoted : Shows (String.ofList e.text) (String.ofList e.text) :=
    .of_clean (by rwa [String.toList_ofList])
  have indent : Shows (spaces e.column) (spaces e.column) :=
    .of_clean (not_mem_spaces (by decide) _)
  have unmarked : escape ≠ '~' := by decide
  have tildes := Palette.shows_paint e.severity.tone (not_mem_replicate unmarked e.width)
  exact (((((((number.append blank).append quoted).append feed).append
    (margin _)).append blank).append indent).append tildes).append feed

end Excerpt

def IsLinePair (text : String) : Prop :=
  ∃ above below : String, '\n' ∉ above.toList ∧ '\n' ∉ below.toList
    ∧ text = above ++ "\n" ++ below ++ "\n"

namespace Palette

theorem newline_not_mem_paint (palette : Palette) (tone : Tone) {text : String}
    (single : '\n' ∉ text.toList) : '\n' ∉ (palette.paint tone text).toList := by
  have selects : '\n' ∉ (control tone.parameter).toList := by cases tone <;> decide
  have resets : '\n' ∉ (control "0").toList := by decide
  unfold paint
  split
  · rw [String.toList_append, String.toList_append, List.mem_append, List.mem_append]
    rintro ((selecting | inside) | resetting)
    · exact selects selecting
    · exact single inside
    · exact resets resetting
  · exact single

end Palette

namespace Excerpt

theorem isLinePair_render (palette : Palette) {e : Excerpt} (single : '\n' ∉ e.text) :
    IsLinePair (e.render palette) := by
  have number : '\n' ∉ (gutter palette (toString e.number)).toList :=
    palette.newline_not_mem_paint .muted
      (not_mem_gutter (by decide) (by decide) (not_mem_decimal (by decide) _))
  have margin : '\n' ∉ (gutter palette (spaces (toString e.number).length)).toList :=
    palette.newline_not_mem_paint .muted
      (not_mem_gutter (by decide) (by decide) (not_mem_spaces (by decide) _))
  have indent : '\n' ∉ (spaces e.column).toList := not_mem_spaces (by decide) _
  have unmarked : '\n' ≠ '~' := by decide
  have tildes := palette.newline_not_mem_paint e.severity.tone
    (not_mem_replicate unmarked e.width)
  refine ⟨gutter palette (toString e.number) ++ " " ++ String.ofList e.text,
    gutter palette (spaces (toString e.number).length) ++ " " ++ spaces e.column
      ++ palette.paint e.severity.tone (String.ofList (List.replicate e.width '~')), ?_, ?_, ?_⟩
  · simp only [String.toList_append, String.toList_ofList, List.mem_append, not_or]
    exact ⟨⟨number, by decide⟩, single⟩
  · simp only [String.toList_append, List.mem_append, not_or]
    exact ⟨⟨⟨margin, by decide⟩, indent⟩, tildes⟩
  · simp only [render, String.append_assoc]

end Excerpt

namespace MessageLine

theorem shows_formed {line : MessageLine} (place : escape ∉ line.location.text.toList)
    (words : escape ∉ line.text.toList) : Shows (line.formed .colored) (line.formed .plain) := by
  have colon : Shows ": " ": " := .of_clean (by decide)
  have prefixed : Shows " TS" " TS" := .of_clean (by decide)
  have code : Shows (toString line.code.toNat) (toString line.code.toNat) :=
    .of_clean (not_mem_decimal (by decide) _)
  have indent : Shows (Excerpt.spaces (2 * line.depth.toNat))
      (Excerpt.spaces (2 * line.depth.toNat)) := .of_clean (Excerpt.not_mem_spaces (by decide) _)
  have feed : Shows "\n" "\n" := .of_clean (by decide)
  exact ((((((((Shows.of_clean place).append colon).append
    (Palette.shows_label line.severity)).append prefixed).append code).append colon).append
    indent).append (.of_clean words)).append feed

end MessageLine

namespace ReportItem

def isMessage : ReportItem → Bool
  | .excerpt _ => false
  | .message _ => true

theorem map_message_filterMap_line? (items : List ReportItem) :
    (items.filterMap line?).map message = items.filter isMessage := by
  induction items with
  | nil => rfl
  | cons item others ih =>
    cases item with
    | excerpt e => exact ih
    | message line => exact congrArg (message line :: ·) ih

def IsClean : ReportItem → Prop
  | .excerpt e => escape ∉ e.text
  | .message line => escape ∉ line.location.text.toList ∧ escape ∉ line.text.toList

theorem shows_formed {item : ReportItem} (clean : item.IsClean) :
    Shows (item.formed .colored) (item.formed .plain) := by
  cases item with
  | excerpt e => exact Excerpt.shows_render clean
  | message line => exact MessageLine.shows_formed clean.1 clean.2

-- Only messages can break a report off, so that it breaks off at the same message without excerpts.
theorem takeWhile_messages (items : List ReportItem) :
    (items.filter isMessage).takeWhile fits = (items.takeWhile fits).filter isMessage := by
  induction items with
  | nil => rfl
  | cons item others ih =>
    cases item with
    | excerpt e => exact ih
    | message line =>
      rw [List.filter_cons_of_pos rfl, List.takeWhile_cons, List.takeWhile_cons]
      split
      · rw [List.filter_cons_of_pos rfl, ih]
      · rfl

theorem filterMap_render? (palette : Palette) {items : List ReportItem}
    (fit : ∀ item ∈ items, item.fits = true) :
    items.filterMap (render? palette) = items.map (formed palette) := by
  rw [← List.filterMap_eq_map]
  refine List.filterMap_congr ?_
  intro item listed
  rw [item.render?_eq palette, if_pos (fit item listed)]
  rfl

end ReportItem

namespace LineIndexes

def Genuine (indexes : LineIndexes) : Prop :=
  ∀ file index, indexes.find? file = some index → ∃ text, index = .ofText text

theorem Holds.genuine {indexes : LineIndexes} {programs : List Snapshot}
    (holds : indexes.Holds programs) : indexes.Genuine := by
  intro file index held
  rw [holds file, Option.map_eq_some_iff] at held
  obtain ⟨text, -, rfl⟩ := held
  exact ⟨text, rfl⟩

end LineIndexes

structure EscapeFree (names : NameMap) (indexes : LineIndexes) (found : List Located) : Prop where
  files : ∀ one ∈ found, ∀ file, one.diagnostic.file = some file → escape ∉ file.toList
  users : ∀ checked user, names.find? checked = some user → escape ∉ user.toList
  messages : ∀ one ∈ found, ∀ m ∈ one.diagnostic.chain, escape ∉ m.text.toList
  source : ∀ file index, indexes.find? file = some index →
    ∀ line ∈ index.lines, escape ∉ line.text

namespace Message

theorem clean_shownText {m : Message} (clean : escape ∉ m.text.toList) :
    escape ∉ m.shownText.toList := by
  unfold shownText
  split
  · decide
  · exact clean

end Message

namespace Located

variable {options : ReportOptions} {names : NameMap} {indexes : LineIndexes} {found : Located}

theorem excerpt?_text {severity : Severity} {e : Excerpt}
    (quoted : found.excerpt? indexes severity = some e) : ∃ file index line,
      indexes.find? file = some index ∧ index.lineText? line = some e.text := by
  simp only [excerpt?, Option.bind_eq_bind, Option.bind_eq_some_iff] at quoted
  obtain ⟨file, -, position, -, index, held, text, got, made⟩ := quoted
  cases made
  exact ⟨file, index, position.line.toNat, held, got⟩

theorem excerpt_of_mem_excerptItems {item : ReportItem}
    (listed : item ∈ found.excerptItems indexes) :
    ∃ severity e, found.excerpt? indexes severity = some e ∧ item = .excerpt e := by
  unfold excerptItems at listed
  split at listed
  · cases listed
  · next head others said =>
    obtain ⟨e, quoted, rfl⟩ := List.mem_map.mp listed
    exact ⟨_, e, Option.mem_toList.mp quoted, rfl⟩

theorem excerpt_of_mem_preface {item : ReportItem}
    (listed : item ∈ found.preface options indexes) :
    ∃ severity e, found.excerpt? indexes severity = some e ∧ item = .excerpt e := by
  unfold preface at listed
  split at listed
  · exact excerpt_of_mem_excerptItems listed
  · cases listed

theorem clean_location {all : List Located} (free : EscapeFree names indexes all)
    (listed : found ∈ all) : escape ∉ (found.location names).text.toList := by
  unfold location
  split
  · decide
  · next file pointed =>
    have named : escape ∉ (names.displayName file).toList := by
      unfold NameMap.displayName
      cases called : names.find? file with
      | none => exact free.files found listed file pointed
      | some user => exact free.users file user called
    cases found.position with
    | none => exact named
    | some position =>
      simp only [Location.text, String.toList_append, List.mem_append, not_or]
      exact ⟨⟨⟨⟨⟨named, by decide⟩, not_mem_decimal (by decide) _⟩, by decide⟩,
        not_mem_decimal (by decide) _⟩, by decide⟩

theorem isClean_of_mem_items {all : List Located} (free : EscapeFree names indexes all)
    (listed : found ∈ all) {item : ReportItem}
    (inside : item ∈ found.items options names indexes) : item.IsClean := by
  rw [items_eq, List.mem_append, List.mem_map] at inside
  rcases inside with above | ⟨line, stated, rfl⟩
  · obtain ⟨severity, e, quoted, rfl⟩ := excerpt_of_mem_preface above
    obtain ⟨file, index, number, held, got⟩ := excerpt?_text quoted
    rw [LineIndex.lineText?, Option.map_eq_some_iff] at got
    obtain ⟨line, numbered, trimmed⟩ := got
    have clean := free.source file index held line (List.mem_of_getElem? numbered)
    intro escaped
    rw [← trimmed] at escaped
    exact clean (LineIndex.mem_of_mem_trimReturns escaped)
  · obtain ⟨m, said, rfl⟩ := List.mem_map.mp stated
    have clean := free.messages found listed m (List.mem_of_mem_take said)
    exact ⟨clean_location free listed, Message.clean_shownText clean⟩

theorem isLinePair_of_mem_items (genuine : indexes.Genuine) (palette : Palette)
    {item : ReportItem} (inside : item ∈ found.items options names indexes)
    (quoting : item.isMessage = false) :
    ∃ text, item.render? palette = some text ∧ IsLinePair text := by
  rw [items_eq, List.mem_append, List.mem_map] at inside
  rcases inside with above | ⟨line, stated, rfl⟩
  · obtain ⟨severity, e, quoted, rfl⟩ := excerpt_of_mem_preface above
    obtain ⟨file, index, number, held, got⟩ := excerpt?_text quoted
    obtain ⟨text, rfl⟩ := genuine file index held
    exact ⟨_, rfl, Excerpt.isLinePair_render palette (LineIndex.newline_not_mem_lineText got)⟩
  · cases quoting

end Located

namespace Report

-- The first report is the second without its excerpts, each of which is a pair of lines.
structure LeavesOutExcerpts (palette : Palette) (indexes : LineIndexes) (brief pretty : Report) :
    Prop where
  items : brief.items = pretty.items.filter ReportItem.isMessage
  whole : brief.isWhole = pretty.isWhole
  text : brief.render palette = String.join
    ((pretty.written.filter ReportItem.isMessage).filterMap (ReportItem.render? palette))
  prettyText : pretty.render palette
    = String.join (pretty.written.filterMap (ReportItem.render? palette))
  pairs : indexes.Genuine → ∀ item ∈ pretty.items, item.isMessage = false →
    ∃ text, item.render? palette = some text ∧ IsLinePair text

variable {options : ReportOptions} {names : NameMap} {indexes : LineIndexes}

theorem mem_items {found : List Located} {item : ReportItem}
    (inside : item ∈ (ofLocated options names indexes found).items) :
    ∃ one ∈ found, item ∈ one.items options names indexes := by
  obtain ⟨one, listed, inside⟩ := List.mem_flatMap.mp inside
  exact ⟨one, List.mem_of_mem_filter listed, inside⟩

theorem shows_render (options : ReportOptions) {found : List Located}
    (free : EscapeFree names indexes found) :
    Shows ((ofLocated options names indexes found).render .colored)
      ((ofLocated options names indexes found).render .plain) := by
  rw [render_eq, render_eq]
  refine Shows.join ?_
  intro item written
  obtain ⟨one, listed, inside⟩ := mem_items (List.takeWhile_subset _ written)
  exact ReportItem.shows_formed (Located.isClean_of_mem_items free listed inside)

theorem fits_of_mem_written {report : Report} {item : ReportItem}
    (written : item ∈ report.written) : item.fits = true :=
  List.mem_takeWhile_imp written

theorem render_eq_filterMap (palette : Palette) (report : Report) : report.render palette
    = String.join (report.written.filterMap (ReportItem.render? palette)) := by
  rw [render_eq, ReportItem.filterMap_render? palette fun _ => fits_of_mem_written]

end Report

structure Appearance where
  pretty : Bool
  color : Bool
  names : NameMap
  indexes : LineIndexes

namespace Appearance

def options (look : Appearance) (base : CheckOptions) : CheckOptions :=
  { base with report := { base.report with pretty := look.pretty, color := look.color } }

def outcome (look : Appearance) (base : CheckOptions) (found : List Located) : Outcome :=
  .ofLocated (look.options base) look.names look.indexes found

def text (look : Appearance) (base : CheckOptions) (found : List Located) : String :=
  (look.outcome base found).report.render (look.options base).report.palette

variable (base : CheckOptions) (found : List Located)

theorem count_outcome (look : Appearance) : (look.outcome base found).report.count
    = Tally.ofSeverities ((Report.shown base.report.suppression found).flatMap fun one =>
        one.diagnostic.messages.map (Message.severity one.phase)) := by
  unfold outcome Outcome.ofLocated
  rw [Report.count_eq, Report.lines_ofLocated, List.map_flatMap]
  congr 1
  exact List.flatMap_congr fun one _ => one.lines_severity look.names

theorem isWhole_outcome (look : Appearance) : (look.outcome base found).report.isWhole = true
    ↔ base.report.suppression.Shallow (found.map Located.finding) :=
  Report.isWhole_iff (look.options base).report look.names look.indexes found

theorem judgement_outcome (one other : Appearance) :
    (one.outcome base found).judgement = (other.outcome base found).judgement := by
  have tally : (one.outcome base found).report.tally? = (other.outcome base found).report.tally? := by
    have whole : (one.outcome base found).report.isWhole = (other.outcome base found).report.isWhole :=
      Bool.eq_iff_iff.mpr ((one.isWhole_outcome base found).trans
        (other.isWhole_outcome base found).symm)
    unfold Report.tally?
    rw [whole, one.count_outcome, other.count_outcome]
  exact congrArg (Option.map (Outcome.judge base)) tally

theorem leavesOutExcerpts (look : Appearance) :
    Report.LeavesOutExcerpts ⟨look.color⟩ look.indexes
      ({ look with pretty := false }.outcome base found).report
      ({ look with pretty := true }.outcome base found).report := by
  have items : ({ look with pretty := false }.outcome base found).report.items
      = ({ look with pretty := true }.outcome base found).report.items.filter
        ReportItem.isMessage := by
    rw [← ReportItem.map_message_filterMap_line?]
    have brief := Report.items_plain look.names look.indexes base.report.suppression found
    have lines := Report.lines_ofLocated
      { base.report with pretty := true, color := look.color } look.names look.indexes found
    rw [Report.lines_ofLocated] at brief
    exact brief.trans (congrArg (List.map ReportItem.message) lines.symm)
  -- Excerpts never break a report off, so that both are cut at the same message.
  have written : ({ look with pretty := false }.outcome base found).report.written
      = ({ look with pretty := true }.outcome base found).report.written.filter
        ReportItem.isMessage := by
    unfold Report.written
    rw [items, ReportItem.takeWhile_messages]
  refine ⟨items, ?_, ?_, Report.render_eq_filterMap _ _, ?_⟩
  · exact Bool.eq_iff_iff.mpr ((isWhole_outcome base found _).trans
      (isWhole_outcome base found _).symm)
  · rw [← written]
    exact Report.render_eq_filterMap _ _
  · intro genuine item inside quoting
    obtain ⟨one, -, inside⟩ := Report.mem_items inside
    exact one.isLinePair_of_mem_items genuine ⟨look.color⟩ inside quoting

-- Appearance changes what is printed and how, not what is found: any two reports on the same
-- diagnostics have one tally and one verdict, or both break off.
theorem appearance_never_decides :
    (∀ one other : Appearance,
        (one.outcome base found).judgement = (other.outcome base found).judgement)
      ∧ ∀ look : Appearance,
        Report.LeavesOutExcerpts ⟨look.color⟩ look.indexes
            ({ look with pretty := false }.outcome base found).report
            ({ look with pretty := true }.outcome base found).report
          ∧ (EscapeFree look.names look.indexes found →
            uncolored ({ look with color := true }.text base found).toList
                = ({ look with color := false }.text base found).toList
              ∧ escape ∉ ({ look with color := false }.text base found).toList) := by
  refine ⟨judgement_outcome base found, ?_⟩
  intro look
  refine ⟨look.leavesOutExcerpts base found, ?_⟩
  intro free
  have shows : Shows ({ look with color := true }.text base found)
      ({ look with color := false }.text base found) :=
    Report.shows_render { base.report with pretty := look.pretty } free
  exact ⟨shows.uncolored_eq, shows.clean⟩

end Appearance

end WatchfaceCheck
