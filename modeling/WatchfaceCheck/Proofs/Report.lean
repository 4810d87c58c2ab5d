import Mathlib.Data.List.Basic
import Mathlib.Data.List.TakeWhile
import WatchfaceCheck.Proofs.Severity
import WatchfaceCheck.Report
namespace WatchfaceCheck

namespace Tally

def add (a b : Tally) : Tally := ⟨a.errors + b.errors, a.warnings + b.warnings, a.total + b.total⟩

theorem foldl_record (severities : List Severity) (tally : Tally) :
    severities.foldl record tally = tally.add
      ⟨severities.count .error, severities.count .warning, severities.length⟩ := by
  induction severities generalizing tally with
  | nil => rfl
  | cons head rest ih =>
    rw [List.foldl_cons, ih]
    cases head <;> simp [record, add] <;> omega

theorem ofSeverities_eq (severities : List Severity) : ofSeverities severities =
    ⟨severities.count .error, severities.count .warning, severities.length⟩ := by
  unfold ofSeverities
  rw [foldl_record]
  simp [add]

end Tally

-- No message of it that can be shown lies so deep that its line cannot be indented.
def Diagnostic.IsShallow (d : Diagnostic) : Prop :=
  ∀ m ∈ d.chain.take 64, m.depth.toNat < MessageLine.depthLimit

instance (d : Diagnostic) : Decidable d.IsShallow :=
  inferInstanceAs (Decidable (∀ m ∈ d.chain.take 64, _))

namespace MessageLine

theorem isSome_indent?_iff {line : MessageLine} :
    line.indent?.isSome = true ↔ line.depth.toNat < depthLimit := by
  unfold indent?
  split
  · next shallow => exact iff_of_true rfl shallow
  · next deep => exact iff_of_false Bool.false_ne_true deep

def formed (palette : Palette) (line : MessageLine) : String :=
  line.location.text ++ ": " ++ palette.label line.severity ++ " TS" ++ toString line.code.toNat
    ++ ": " ++ Excerpt.spaces (2 * line.depth.toNat) ++ line.text ++ "\n"

theorem render?_eq (palette : Palette) (line : MessageLine) :
    line.render? palette = if line.indent?.isSome then some (line.formed palette) else none := by
  unfold render? indent?
  split <;> rfl

end MessageLine

namespace ReportItem

def formed (palette : Palette) : ReportItem → String
  | .excerpt e => e.render palette
  | .message line => line.formed palette

theorem render?_eq (palette : Palette) (item : ReportItem) :
    item.render? palette = if item.fits then some (item.formed palette) else none := by
  cases item with
  | excerpt e => rfl
  | message line => exact line.render?_eq palette

theorem fits_message_iff {line : MessageLine} :
    fits (.message line) = true ↔ line.depth.toNat < MessageLine.depthLimit :=
  MessageLine.isSome_indent?_iff

def line? : ReportItem → Option MessageLine
  | .excerpt _ => none
  | .message line => some line

theorem severity?_eq (item : ReportItem) : item.severity? = item.line?.map MessageLine.severity := by
  cases item <;> rfl

theorem filterMap_line?_message (lines : List MessageLine) :
    (lines.map ReportItem.message).filterMap line? = lines := by
  rw [List.filterMap_map]
  exact List.filterMap_some

theorem filterMap_line?_excerpt (excerpts : List Excerpt) :
    (excerpts.map ReportItem.excerpt).filterMap line? = [] := by
  rw [List.filterMap_map, List.filterMap_eq_nil_iff]
  exact fun _ _ => rfl

end ReportItem

namespace Located

variable (options : ReportOptions) (names : NameMap) (indexes : LineIndexes)

def finding (found : Located) : Phase × Diagnostic := (found.phase, found.diagnostic)

def lines (found : Located) : List MessageLine :=
  found.diagnostic.messages.map (found.messageLine names)

theorem messageItems_eq (found : Located) :
    found.messageItems names = (found.lines names).map .message := by
  simp [messageItems, lines]

theorem filterMap_line?_excerptItems (found : Located) :
    (found.excerptItems indexes).filterMap ReportItem.line? = [] := by
  unfold excerptItems
  split
  · rfl
  · exact ReportItem.filterMap_line?_excerpt _

def preface (found : Located) : List ReportItem :=
  if options.pretty then found.excerptItems indexes else []

theorem items_eq (found : Located) : found.items options names indexes =
    found.preface options indexes ++ (found.lines names).map .message := by
  unfold items preface
  rw [messageItems_eq]

theorem filterMap_line?_preface (found : Located) :
    (found.preface options indexes).filterMap ReportItem.line? = [] := by
  unfold preface
  split
  · exact filterMap_line?_excerptItems indexes found
  · rfl

theorem all_fits_preface (found : Located) :
    (found.preface options indexes).all ReportItem.fits = true := by
  rw [List.all_eq_true]
  intro item above
  unfold preface excerptItems at above
  split at above
  · split at above
    · cases above
    · obtain ⟨e, -, rfl⟩ := List.mem_map.mp above
      rfl
  · cases above

theorem all_fits_lines_iff (found : Located) :
    ((found.lines names).map ReportItem.message).all ReportItem.fits = true
      ↔ found.diagnostic.IsShallow := by
  simp only [lines, List.map_map, List.all_map, List.all_eq_true, Function.comp_apply,
    ReportItem.fits_message_iff]
  rfl

theorem all_fits_items_iff (found : Located) :
    (found.items options names indexes).all ReportItem.fits = true
      ↔ found.diagnostic.IsShallow := by
  rw [items_eq, List.all_append, all_fits_preface, Bool.true_and, all_fits_lines_iff]

theorem filterMap_line?_items (found : Located) :
    (found.items options names indexes).filterMap ReportItem.line? = found.lines names := by
  rw [items_eq, List.filterMap_append, filterMap_line?_preface, List.nil_append,
    ReportItem.filterMap_line?_message]

theorem length_lines (found : Located) :
    (found.lines names).length = min 64 found.diagnostic.chain.length := by
  simp [lines, Diagnostic.messages, Diagnostic.chainLimit]

theorem lines_severity (found : Located) : (found.lines names).map MessageLine.severity =
    found.diagnostic.messages.map (Message.severity found.phase) := by
  simp [lines, messageLine]

end Located

namespace Report

variable (options : ReportOptions) (names : NameMap) (indexes : LineIndexes)

def lines (report : Report) : List MessageLine := report.items.filterMap ReportItem.line?

theorem count_eq (report : Report) :
    report.count = Tally.ofSeverities (report.lines.map MessageLine.severity) := by
  unfold count lines
  rw [List.map_filterMap]
  congr 1
  exact List.filterMap_congr fun item _ => item.severity?_eq

theorem total_count (report : Report) : report.count.total = report.lines.length := by
  rw [count_eq, Tally.ofSeverities_eq, List.length_map]

theorem errors_count_pos_iff (report : Report) :
    0 < report.count.errors ↔ ∃ line ∈ report.lines, line.severity = .error := by
  rw [count_eq, Tally.ofSeverities_eq, List.count_pos_iff, List.mem_map]

theorem tally?_eq_some_iff {report : Report} {tally : Tally} :
    report.tally? = some tally ↔ report.isWhole = true ∧ report.count = tally := by
  unfold tally?
  split
  · next whole => simp [whole]
  · next broken => simp [broken]

-- What is written of a report: the items above the first that has no text.
def written (report : Report) : List ReportItem := report.items.takeWhile ReportItem.fits

theorem texts_eq (palette : Palette) (items : List ReportItem) :
    texts palette items = (items.takeWhile ReportItem.fits).map (ReportItem.formed palette) := by
  induction items with
  | nil => rfl
  | cons item others ih =>
    rw [texts, item.render?_eq palette, List.takeWhile_cons]
    cases item.fits with
    | true => exact congrArg (item.formed palette :: ·) ih
    | false => rfl

theorem render_eq (palette : Palette) (report : Report) :
    report.render palette = String.join (report.written.map (ReportItem.formed palette)) := by
  rw [render, texts_eq, written]

theorem written_of_whole {report : Report} (whole : report.isWhole = true) :
    report.written = report.items :=
  List.takeWhile_eq_self_iff.mpr (List.all_eq_true.mp whole)

theorem render_append (palette : Palette) (a b : List ReportItem) : render palette ⟨a ++ b⟩
    = if isWhole ⟨a⟩ then render palette ⟨a⟩ ++ render palette ⟨b⟩ else render palette ⟨a⟩ := by
  induction a with
  | nil => simp [render, texts, isWhole]
  | cons item others ih =>
    have first (rest : List ReportItem) : render palette ⟨item :: rest⟩
        = if item.fits then item.formed palette ++ render palette ⟨rest⟩ else "" := by
      unfold render
      rw [texts, item.render?_eq palette]
      cases item.fits <;> simp [String.join_cons]
    have whole : isWhole ⟨item :: others⟩ = (item.fits && isWhole ⟨others⟩) := rfl
    rw [List.cons_append, first, first, ih, whole]
    cases item.fits with
    | false => rfl
    | true =>
      cases isWhole ⟨others⟩ with
      | false => rfl
      | true => simp [String.append_assoc]

theorem render_append_of_whole (palette : Palette) {a : List ReportItem}
    (whole : isWhole ⟨a⟩ = true) (b : List ReportItem) :
    render palette ⟨a ++ b⟩ = render palette ⟨a⟩ ++ render palette ⟨b⟩ := by
  rw [render_append, if_pos whole]

theorem isWhole_append (a b : List ReportItem) :
    isWhole ⟨a ++ b⟩ = (isWhole ⟨a⟩ && isWhole ⟨b⟩) :=
  List.all_append

theorem render_flatMap {α : Type} (palette : Palette) (items : α → List ReportItem)
    {each : List α} (whole : isWhole ⟨each.flatMap items⟩ = true) :
    render palette ⟨each.flatMap items⟩
      = String.join (each.map fun one => render palette ⟨items one⟩) := by
  induction each with
  | nil => rfl
  | cons one rest ih =>
    rw [List.flatMap_cons, isWhole_append, Bool.and_eq_true] at whole
    rw [List.flatMap_cons, render_append_of_whole palette whole.1, ih whole.2, List.map_cons,
      String.join_cons]

theorem render_messages (palette : Palette) {lines : List MessageLine}
    (whole : isWhole ⟨lines.map .message⟩ = true) :
    render palette ⟨lines.map .message⟩ = String.join (lines.map (MessageLine.formed palette)) := by
  rw [render_eq, written_of_whole whole, List.map_map]
  rfl

theorem shown_append (suppression : Suppression) (a b : List Located) :
    shown suppression (a ++ b) = shown suppression a ++ shown suppression b :=
  List.filter_append a b

theorem shown_kept {suppression : Suppression} {found : Located}
    (kept : suppression.suppresses found.phase found.diagnostic = false) (rest : List Located) :
    shown suppression (found :: rest) = found :: shown suppression rest :=
  List.filter_cons_of_pos (by simp [kept])

theorem shown_dropped {suppression : Suppression} {found : Located}
    (dropped : suppression.suppresses found.phase found.diagnostic = true) (rest : List Located) :
    shown suppression (found :: rest) = shown suppression rest :=
  List.filter_cons_of_neg (by simp [dropped])

theorem items_append (a b : List Located) : (ofLocated options names indexes (a ++ b)).items =
    (ofLocated options names indexes a).items ++ (ofLocated options names indexes b).items := by
  simp only [ofLocated, shown_append, List.flatMap_append]

theorem items_kept {found : Located}
    (kept : options.suppression.suppresses found.phase found.diagnostic = false)
    (rest : List Located) : (ofLocated options names indexes (found :: rest)).items =
      found.items options names indexes ++ (ofLocated options names indexes rest).items := by
  simp only [ofLocated, shown_kept kept, List.flatMap_cons]

theorem lines_append (a b : List Located) : (ofLocated options names indexes (a ++ b)).lines =
    (ofLocated options names indexes a).lines ++ (ofLocated options names indexes b).lines := by
  unfold lines
  rw [items_append, List.filterMap_append]

theorem count_append (a b : List Located) :
    (ofLocated options names indexes (a ++ b)).count
      = (ofLocated options names indexes a).count.add (ofLocated options names indexes b).count := by
  simp only [count_eq, lines_append, List.map_append, Tally.ofSeverities_eq, List.count_append,
    List.length_append, Tally.add]

theorem items_each (found : List Located) : (ofLocated options names indexes found).items =
    found.flatMap fun one => (ofLocated options names indexes [one]).items := by
  induction found with
  | nil => rfl
  | cons one rest ih =>
    rw [List.flatMap_cons, ← ih]
    exact items_append options names indexes [one] rest

theorem lines_each (found : List Located) : (ofLocated options names indexes found).lines =
    found.flatMap fun one => (ofLocated options names indexes [one]).lines := by
  unfold lines
  rw [items_each, List.filterMap_flatMap]

theorem lines_ofLocated (found : List Located) : (ofLocated options names indexes found).lines =
    (shown options.suppression found).flatMap (Located.lines names) := by
  unfold lines ofLocated
  rw [List.filterMap_flatMap]
  exact List.flatMap_congr fun one _ => Located.filterMap_line?_items options names indexes one

end Report

namespace Suppression

def Shallow (policy : Suppression) (findings : List (Phase × Diagnostic)) : Prop :=
  ∀ finding ∈ findings, policy.suppresses finding.1 finding.2 = false → finding.2.IsShallow

instance (policy : Suppression) (findings : List (Phase × Diagnostic)) :
    Decidable (policy.Shallow findings) :=
  inferInstanceAs (Decidable (∀ finding ∈ findings, _ → _))

theorem shallow_append {policy : Suppression} {a b : List (Phase × Diagnostic)} :
    policy.Shallow (a ++ b) ↔ policy.Shallow a ∧ policy.Shallow b :=
  List.forall_mem_append

end Suppression

namespace Report

theorem isWhole_iff (options : ReportOptions) (names : NameMap) (indexes : LineIndexes)
    (found : List Located) : (ofLocated options names indexes found).isWhole = true
      ↔ options.suppression.Shallow (found.map Located.finding) := by
  unfold isWhole ofLocated
  rw [List.all_flatMap, List.all_eq_true]
  simp only [Located.all_fits_items_iff, shown, List.mem_filter, Bool.not_eq_true',
    Suppression.Shallow, List.forall_mem_map, and_imp]
  rfl

end Report

end WatchfaceCheck
