import Mathlib.Data.List.Forall2
import WatchfaceCheck.Proofs.Verdict
namespace WatchfaceCheck

namespace Stub

theorem explanation_unmarked : ¬ marker.toList <:+: Stub.explanation.toList := by
  decide +kernel

end Stub

namespace Message

-- How a line tells a message: of a stub it says the explanation and nothing of the checker's words.
structure ToldBy (m : Message) (palette : Palette) (line : MessageLine) : Prop where
  severity : m.NamesStub → line.severity = .error
  text : line.text = if m.NamesStub then Stub.explanation else m.text
  unmarked : ¬ Stub.marker.toList <:+: line.text.toList
  printed : line.render? palette = some (line.location.text ++ ": "
    ++ palette.label line.severity ++ " TS" ++ toString m.code.toNat ++ ": "
    ++ Excerpt.spaces (2 * m.depth.toNat) ++ line.text ++ "\n")

theorem shownText_eq (m : Message) :
    m.shownText = if m.NamesStub then Stub.explanation else m.text := by
  by_cases named : m.NamesStub
  · rw [if_pos named, shownText_stub named]
  · rw [if_neg named, shownText_plain named]

theorem shownText_unmarked (m : Message) : ¬ Stub.marker.toList <:+: m.shownText.toList := by
  by_cases named : m.NamesStub
  · rw [shownText_stub named]
    exact Stub.explanation_unmarked
  · rw [shownText_plain named]
    exact named

theorem toldBy_messageLine {m : Message} (shallow : m.depth.toNat < MessageLine.depthLimit)
    (palette : Palette) (names : NameMap) (found : Located) :
    m.ToldBy palette (found.messageLine names m) where
  severity := severity_stub found.phase
  text := m.shownText_eq
  unmarked := m.shownText_unmarked
  printed := by
    rw [MessageLine.render?_eq, if_pos (MessageLine.isSome_indent?_iff.mpr shallow)]
    rfl

end Message

namespace Located

theorem told {found : Located} (shallow : found.diagnostic.IsShallow) (palette : Palette)
    (names : NameMap) :
    List.Forall₂ (fun m line => m.ToldBy palette line) (found.diagnostic.chain.take 64)
      (found.lines names) := by
  unfold lines
  rw [List.forall₂_map_right_iff]
  exact List.forall₂_same.mpr fun m said =>
    Message.toldBy_messageLine (shallow m said) palette names found

end Located

namespace MessageLine

theorem filterMap_render? (palette : Palette) {lines : List MessageLine}
    (whole : Report.isWhole ⟨lines.map .message⟩ = true) :
    lines.filterMap (render? palette) = lines.map (formed palette) := by
  induction lines with
  | nil => rfl
  | cons line others ih =>
    obtain ⟨fits, whole⟩ := Bool.and_eq_true_iff.mp whole
    have text := ReportItem.render?_eq palette (.message line)
    rw [if_pos fits] at text
    rw [List.map_cons, ← ih whole]
    exact List.filterMap_cons_some text

end MessageLine

namespace Outcome

structure ShownWhole (options : CheckOptions) (names : NameMap) (indexes : LineIndexes)
    (before : List Located) (found : Located) (after : List Located)
    (preface : List ReportItem) (lines : List MessageLine) (report : Report) : Prop where
  items : report.items = (ofLocated options names indexes before).report.items
    ++ (preface ++ lines.map .message) ++ (ofLocated options names indexes after).report.items
  uncounted : preface.filterMap ReportItem.line? = []
  told : List.Forall₂ (fun m line => m.ToldBy options.report.palette line)
    (found.diagnostic.chain.take 64) lines
  printed : report.render options.report.palette
    = (ofLocated options names indexes before).report.render options.report.palette
      ++ Report.render options.report.palette ⟨preface⟩
      ++ String.join (lines.filterMap (MessageLine.render? options.report.palette))
      ++ (ofLocated options names indexes after).report.render options.report.palette

-- What becomes of it: it is shown whole unless the report breaks off before its end, and whatever
-- is judged is a failure.
structure Exposed (options : CheckOptions) (names : NameMap) (indexes : LineIndexes)
    (before : List Located) (found : Located) (after : List Located) (outcome : Outcome) :
    Prop where
  shown : options.report.suppression.Shallow ((before ++ [found]).map Located.finding) →
    ∃ preface lines,
      ShownWhole options names indexes before found after preface lines outcome.report
  failed : options.report.suppression.Shallow ((before ++ found :: after).map Located.finding) →
    ∃ tally count, outcome.judgement = some ⟨tally, .errors count⟩
      ∧ (Verdict.errors count).exitStatus.code = 1
  broken : ¬ options.report.suppression.Shallow
      ((before ++ found :: after).map Located.finding) → outcome.judgement = none

variable (options : CheckOptions) (names : NameMap) (indexes : LineIndexes)

theorem items_between {found : Located} (before after : List Located)
    (kept : options.report.suppression.suppresses found.phase found.diagnostic = false) :
    (ofLocated options names indexes (before ++ found :: after)).report.items
      = (ofLocated options names indexes before).report.items
        ++ (found.preface options.report indexes ++ (found.lines names).map .message)
        ++ (ofLocated options names indexes after).report.items := by
  simp only [ofLocated]
  rw [Report.items_append, Report.items_kept _ _ _ kept, Located.items_eq]
  simp only [List.append_assoc]

theorem shownWhole_of_kept {found : Located} (before after : List Located)
    (kept : options.report.suppression.suppresses found.phase found.diagnostic = false)
    (shallow : options.report.suppression.Shallow ((before ++ [found]).map Located.finding)) :
    ShownWhole options names indexes before found after (found.preface options.report indexes)
      (found.lines names) (ofLocated options names indexes (before ++ found :: after)).report := by
  rw [List.map_append, Suppression.shallow_append] at shallow
  have own := shallow.2 found.finding (List.mem_singleton_self _) kept
  have earlier : Report.isWhole ⟨(ofLocated options names indexes before).report.items⟩ = true :=
    (Report.isWhole_iff options.report names indexes before).mpr shallow.1
  have preface : Report.isWhole ⟨found.preface options.report indexes⟩ = true :=
    found.all_fits_preface options.report indexes
  have lines : Report.isWhole ⟨(found.lines names).map .message⟩ = true :=
    (found.all_fits_lines_iff names).mpr own
  -- What stands behind the diagnostic may break the report off, but only after it.
  have upTo : Report.isWhole ⟨(ofLocated options names indexes before).report.items
      ++ (found.preface options.report indexes ++ (found.lines names).map .message)⟩ = true := by
    simp only [Report.isWhole_append, earlier, preface, lines, Bool.and_true]
  have items := items_between options names indexes before after kept
  have report : (ofLocated options names indexes (before ++ found :: after)).report = ⟨_⟩ :=
    congrArg Report.mk items
  refine ⟨items, found.filterMap_line?_preface options.report indexes,
    Located.told own options.report.palette names, ?_⟩
  rw [report, Report.render_append_of_whole _ upTo, Report.render_append_of_whole _ earlier,
    Report.render_append_of_whole _ preface, Report.render_messages _ lines,
    MessageLine.filterMap_render? _ lines]
  simp only [String.append_assoc]

theorem errors_of_stub {found : Located} {m : Message} (before after : List Located)
    (said : m ∈ found.diagnostic.messages) (named : m.NamesStub) :
    0 < (Report.ofLocated options.report names indexes
      (before ++ found :: after)).count.errors := by
  have kept := options.report.suppression.keeps_stub found.phase said named
  rw [Report.errors_count_pos_iff]
  refine ⟨found.messageLine names m, ?_, Message.severity_stub found.phase named⟩
  rw [Report.lines_ofLocated, Report.shown_append, Report.shown_kept kept, List.flatMap_append,
    List.flatMap_cons]
  have own : found.messageLine names m ∈ found.lines names := List.mem_map_of_mem said
  exact List.mem_append_right _ (List.mem_append_left _ own)

theorem exposed_of_stub {found : Located} {m : Message} (before after : List Located)
    (said : m ∈ found.diagnostic.messages) (named : m.NamesStub) :
    Exposed options names indexes before found after
      (ofLocated options names indexes (before ++ found :: after)) := by
  have kept := options.report.suppression.keeps_stub found.phase said named
  refine ⟨?_, ?_, judgement_of_deep options names⟩
  · intro shallow
    exact ⟨_, _, shownWhole_of_kept options names indexes before after kept shallow⟩
  · intro shallow
    have some := errors_of_stub options names indexes before after said named
    let tally := (Report.ofLocated options.report names indexes (before ++ found :: after)).count
    refine ⟨tally, tally.errors, ?_, rfl⟩
    rw [judgement_of_shallow options names shallow, judge, Verdict.ofTally_of_errors some]

theorem ofProgram_between {program : Snapshot} {earlier later : List (Phase × Diagnostic)}
    {phase : Phase} {d : Diagnostic}
    (listed : program.findings = earlier ++ (phase, d) :: later) :
    ∃ indexes position before after, ofProgram options names program
        = ofLocated options names indexes (before ++ ⟨phase, d, position⟩ :: after)
      ∧ before.map Located.finding = earlier
      ∧ after.map Located.finding = later := by
  let indexes := LineIndexes.addProgram .empty program
  refine ⟨indexes, LineIndexes.position? indexes d, earlier.map (Snapshot.locateOne indexes),
    later.map (Snapshot.locateOne indexes), ?_, Snapshot.map_finding_locate indexes earlier,
    Snapshot.map_finding_locate indexes later⟩
  have located : program.locate indexes = earlier.map (Snapshot.locateOne indexes)
      ++ Snapshot.locateOne indexes (phase, d) :: later.map (Snapshot.locateOne indexes) := by
    rw [Snapshot.locate_eq, listed, List.map_append, List.map_cons]
  exact congrArg (ofLocated options names indexes) located

def curveTo : Diagnostic where
  file := some "face.ts"
  category := .warning
  code := 2339
  chain := [
    { code := 2339, text := "Property 'curveTo' does not exist on type '\x7b x: number; \x7d'.",
      category := .error },
    { code := 2322, text := "Type 'number' is not assignable to type 'IsNotImplementedInRockyYet'.",
      category := .message, depth := 1 }]

end Outcome

end WatchfaceCheck
