import WatchfaceCheck.Proofs.Collecting
namespace WatchfaceCheck

inductive BuildStep where
  | diagnostic (phase : Phase) (d : Diagnostic)
  | source (file text : String)
deriving DecidableEq, Repr

namespace BuildStep

def addedTo? (phase : Phase) : BuildStep → Option Diagnostic
  | .diagnostic other d => if other = phase then some d else none
  | .source _ _ => none

def given? : BuildStep → Option (String × String)
  | .diagnostic _ _ => none
  | .source file text => some (file, text)

def added (steps : List BuildStep) (phase : Phase) : List Diagnostic :=
  steps.filterMap (addedTo? phase)

def lastText? (steps : List BuildStep) (file : String) : Option String :=
  (steps.filterMap given?).reverse.lookup file

-- However the two are interleaved, each phase gets the same, and each file ends with the same text.
structure Agree (a b : List BuildStep) : Prop where
  phases : ∀ phase, added a phase = added b phase
  texts : ∀ file, lastText? a file = lastText? b file

end BuildStep

namespace Snapshot

open BuildStep (added lastText?)

def withStep (program : Snapshot) : BuildStep → Snapshot
  | .diagnostic phase d => program.withDiagnostic phase d
  | .source file text => program.withSource file text

def built (steps : List BuildStep) : Snapshot := steps.foldl withStep .empty

theorem diagnostics_withStep (program : Snapshot) (step : BuildStep) (phase : Phase) :
    (program.withStep step).diagnostics phase
      = program.diagnostics phase ++ (step.addedTo? phase).toList := by
  cases step with
  | diagnostic other d =>
    cases other <;> cases phase <;> simp [withStep, withDiagnostic, diagnostics, BuildStep.addedTo?]
  | source file text => cases phase <;> simp [withStep, withSource, diagnostics, BuildStep.addedTo?]

theorem diagnostics_withSteps (steps : List BuildStep) (program : Snapshot) (phase : Phase) :
    (steps.foldl withStep program).diagnostics phase
      = program.diagnostics phase ++ added steps phase := by
  induction steps generalizing program with
  | nil => exact (List.append_nil _).symm
  | cons step rest ih =>
    rw [List.foldl_cons, ih, diagnostics_withStep, List.append_assoc]
    congr 1
    unfold added
    rw [List.filterMap_cons]
    cases step.addedTo? phase <;> rfl

theorem diagnostics_built (steps : List BuildStep) (phase : Phase) :
    (built steps).diagnostics phase = added steps phase := by
  unfold built
  rw [diagnostics_withSteps]
  cases phase <;> rfl

theorem sources_withSteps (steps : List BuildStep) (program : Snapshot) :
    (steps.foldl withStep program).sources = (steps.filterMap BuildStep.given?).foldl
      (fun d entry => d.insert entry.1 entry.2) program.sources := by
  induction steps generalizing program with
  | nil => rfl
  | cons step rest ih =>
    rw [List.foldl_cons, ih, List.filterMap_cons]
    cases step with
    | diagnostic phase d => cases phase <;> rfl
    | source file text => rfl

theorem sourceText?_built (steps : List BuildStep) (file : String) :
    (built steps).sourceText? file = lastText? steps file := by
  unfold sourceText? built
  rw [sources_withSteps]
  exact Dictionary.find?_ofList _ file

theorem ext_diagnostics {a b : Snapshot} (phases : ∀ phase, a.diagnostics phase = b.diagnostics phase)
    (texts : ∀ file, a.sourceText? file = b.sourceText? file) : a = b := by
  have options : a.options = b.options := phases .options
  have global : a.global = b.global := phases .global
  have syntactic : a.syntactic = b.syntactic := phases .syntactic
  have semantic : a.semantic = b.semantic := phases .semantic
  have sources : a.sources = b.sources := Dictionary.ext_find? texts
  cases a
  cases b
  simp only at options global syntactic semantic sources
  subst options global syntactic semantic sources
  rfl

theorem built_eq_of_agree {a b : List BuildStep} (agree : BuildStep.Agree a b) :
    built a = built b := by
  refine ext_diagnostics ?_ ?_
  · intro phase
    rw [diagnostics_built, diagnostics_built, agree.phases]
  · intro file
    rw [sourceText?_built, sourceText?_built, agree.texts]

theorem size_eq (program : Snapshot) : program.size = program.options.length
    + program.global.length + program.syntactic.length + program.semantic.length := by
  unfold size
  rw [findings_eq]
  simp only [List.length_append, List.length_map]

structure Reorders (p q : Snapshot) : Prop where
  phases : ∀ phase, (p.diagnostics phase).Perm (q.diagnostics phase)
  texts : ∀ file, p.sourceText? file = q.sourceText? file

theorem Reorders.findings_perm {p q : Snapshot} (reorders : Reorders p q) :
    p.findings.Perm q.findings := by
  have tagged (phase : Phase) : ((p.diagnostics phase).map (Prod.mk phase)).Perm
      ((q.diagnostics phase).map (Prod.mk phase)) := (reorders.phases phase).map _
  rw [findings_eq, findings_eq]
  exact (((tagged .options).append (tagged .global)).append (tagged .syntactic)).append
    (tagged .semantic)

theorem Reorders.givenText_eq {p q : Snapshot} (reorders : Reorders p q) (file : String) :
    p.givenText file = q.givenText file := by
  unfold givenText
  rw [reorders.texts]

theorem Reorders.addProgram_eq {p q : Snapshot} (reorders : Reorders p q)
    (indexes : LineIndexes) : indexes.addProgram p = indexes.addProgram q := by
  refine Dictionary.ext_find? ?_
  intro file
  have listed : file ∈ p.mentioned ↔ file ∈ q.mentioned :=
    (reorders.findings_perm.filterMap _).mem_iff
  rw [LineIndexes.find?_addProgram, LineIndexes.find?_addProgram, reorders.givenText_eq]
  by_cases mentioned : file ∈ p.mentioned
  · rw [if_pos mentioned, if_pos (listed.mp mentioned)]
  · rw [if_neg mentioned, if_neg (mt listed.mpr mentioned)]

theorem voicedIn_perm (suppression : Suppression) (phase : Phase) {a b : List Diagnostic}
    (reordered : a.Perm b) :
    (voicedIn suppression phase a).Perm (voicedIn suppression phase b) :=
  (reordered.filter _).flatMap_right _

theorem Reorders.shallow_iff {p q : Snapshot} (reorders : Reorders p q)
    (suppression : Suppression) : suppression.Shallow p.findings ↔ suppression.Shallow q.findings :=
  forall_congr' fun _ => imp_congr_left reorders.findings_perm.mem_iff

theorem Reorders.voiced_perm {p q : Snapshot} (reorders : Reorders p q)
    (suppression : Suppression) : (p.voiced suppression).Perm (q.voiced suppression) := by
  unfold voiced
  refine List.Perm.append (List.Perm.append (List.Perm.append ?_ ?_) ?_) ?_
  · exact voicedIn_perm suppression .options (reorders.phases .options)
  · exact voicedIn_perm suppression .global (reorders.phases .global)
  · exact voicedIn_perm suppression .syntactic (reorders.phases .syntactic)
  · exact voicedIn_perm suppression .semantic (reorders.phases .semantic)

def placeOf (program : Snapshot) (d : Diagnostic) : Option Position :=
  d.file.map fun file =>
    (LineIndex.ofText ((program.sourceText? file).getD "")).position d.start

theorem Reorders.placeOf_eq {p q : Snapshot} (reorders : Reorders p q) (d : Diagnostic) :
    p.placeOf d = q.placeOf d := by
  unfold placeOf
  simp only [reorders.texts]

theorem collect_fresh_eq (program : Snapshot) : (program.collect .empty).2
    = program.findings.map fun finding => ⟨finding.1, finding.2, program.placeOf finding.2⟩ := by
  rw [collect_eq, locate_eq]
  refine List.map_congr_left ?_
  intro finding found
  have placed : (locateOne (LineIndexes.addProgram .empty program) finding).position
      = program.placeOf finding.2 := by
    refine program.collect_fresh ?_
    rw [collect_eq]
    exact List.mem_map_of_mem found
  rw [← placed]
  rfl

end Snapshot

namespace Outcome

def block (options : CheckOptions) (names : NameMap) (program : Snapshot)
    (finding : Phase × Diagnostic) : List ReportItem :=
  let indexes := LineIndexes.addProgram .empty program
  (Report.ofLocated options.report names indexes [Snapshot.locateOne indexes finding]).items

theorem items_eq_blocks (options : CheckOptions) (names : NameMap) (program : Snapshot) :
    (ofProgram options names program).report.items
      = program.findings.flatMap (block options names program) := by
  have blocks := Report.items_each options.report names (LineIndexes.addProgram .empty program)
    (program.locate (LineIndexes.addProgram .empty program))
  rw [Snapshot.locate_eq, List.flatMap_map] at blocks
  exact blocks

theorem render_eq_blocks {options : CheckOptions} {names : NameMap} {program : Snapshot}
    (whole : (ofProgram options names program).report.isWhole = true) (palette : Palette) :
    (ofProgram options names program).report.render palette
      = String.join (program.findings.map fun finding =>
        Report.render palette ⟨block options names program finding⟩) := by
  have report : (ofProgram options names program).report
      = ⟨program.findings.flatMap (block options names program)⟩ :=
    congrArg Report.mk (items_eq_blocks options names program)
  rw [report] at whole ⊢
  exact Report.render_flatMap palette _ whole

theorem isWhole_ofProgram_iff (options : CheckOptions) (names : NameMap) (program : Snapshot) :
    (ofProgram options names program).report.isWhole = true
      ↔ options.report.suppression.Shallow program.findings := by
  rw [← map_finding_located program (LineIndexes.addProgram .empty program)]
  exact Report.isWhole_iff options.report names _ _

theorem block_reordered (options : CheckOptions) (names : NameMap) {p q : Snapshot}
    (reorders : Snapshot.Reorders p q) (finding : Phase × Diagnostic) :
    block options names p finding = block options names q finding := by
  simp only [block, reorders.addProgram_eq]

structure SameResults (a b : List BuildStep) : Prop where
  collected : (Snapshot.built a).collect .empty = (Snapshot.built b).collect .empty
  listed : ((Snapshot.built a).collect .empty).2.map Located.finding
    = (BuildStep.added a .options).map (Prod.mk .options)
      ++ (BuildStep.added a .global).map (Prod.mk .global)
      ++ (BuildStep.added a .syntactic).map (Prod.mk .syntactic)
      ++ (BuildStep.added a .semantic).map (Prod.mk .semantic)
  length : ((Snapshot.built a).collect .empty).2.length = (Snapshot.built a).size
  size : (Snapshot.built a).size
    = (BuildStep.added a .options).length + (BuildStep.added a .global).length
      + (BuildStep.added a .syntactic).length + (BuildStep.added a .semantic).length
  outcome : ∀ options names,
    ofProgram options names (Snapshot.built a) = ofProgram options names (Snapshot.built b)

-- What comes of a program whose diagnostics are put into another order: each has the same block and
-- the same place, and the report is these blocks in the new order. It breaks off in both orders or
-- in none.
structure OnlyMoves (options : CheckOptions) (names : NameMap) (p q : Snapshot) : Prop where
  blocks : ∀ finding, block options names p finding = block options names q finding
  before : (ofProgram options names p).report.items
    = p.findings.flatMap (block options names p)
  after : (ofProgram options names q).report.items
    = q.findings.flatMap (block options names q)
  whole : (ofProgram options names p).report.isWhole = (ofProgram options names q).report.isWhole
  written : (ofProgram options names p).report.isWhole = true → ∀ palette,
    (ofProgram options names p).report.render palette
        = String.join (p.findings.map fun finding =>
          Report.render palette ⟨block options names p finding⟩)
      ∧ (ofProgram options names q).report.render palette
        = String.join (q.findings.map fun finding =>
          Report.render palette ⟨block options names q finding⟩)
  moved : (p.findings.map (block options names p)).Perm (q.findings.map (block options names q))
  placed : (p.collect .empty).2
    = p.findings.map fun finding => ⟨finding.1, finding.2, p.placeOf finding.2⟩
  replaced : (q.collect .empty).2
    = q.findings.map fun finding => ⟨finding.1, finding.2, p.placeOf finding.2⟩
  judgement : (ofProgram options names p).judgement = (ofProgram options names q).judgement

theorem sameResults_of_agree {a b : List BuildStep} (agree : BuildStep.Agree a b) :
    SameResults a b := by
  have same := Snapshot.built_eq_of_agree agree
  have findings : ((Snapshot.built a).collect .empty).2.map Located.finding
      = (Snapshot.built a).findings := by
    rw [Snapshot.collect_eq]
    exact Snapshot.map_finding_locate _ _
  have added := Snapshot.diagnostics_built a
  refine ⟨by rw [same], ?_, ?_, ?_, ?_⟩
  · rw [findings, Snapshot.findings_eq, ← added, ← added, ← added, ← added]
    rfl
  · have counted := congrArg List.length findings
    rwa [List.length_map] at counted
  · rw [Snapshot.size_eq, ← added, ← added, ← added, ← added]
    rfl
  · intro options names
    rw [same]

theorem judgement_reordered (options : CheckOptions) (names : NameMap) {p q : Snapshot}
    (reorders : Snapshot.Reorders p q) :
    (ofProgram options names p).judgement = (ofProgram options names q).judgement := by
  have same := reorders.shallow_iff options.report.suppression
  by_cases shallow : options.report.suppression.Shallow p.findings
  · have voices := reorders.voiced_perm options.report.suppression
    -- Counting does not see the order.
    have tallied : p.tallied options.report.suppression = q.tallied options.report.suppression := by
      unfold Snapshot.tallied Snapshot.errorCount Snapshot.warningCount
      rw [voices.countP_eq, voices.countP_eq, voices.length_eq]
    rw [judgement_ofProgram options names p shallow, tallied,
      judgement_ofProgram options names q (same.mp shallow)]
  · rw [unjudged_ofProgram options names p shallow,
      unjudged_ofProgram options names q (mt same.mpr shallow)]

theorem onlyMoves_of_reorders (options : CheckOptions) (names : NameMap) {p q : Snapshot}
    (reorders : Snapshot.Reorders p q) : OnlyMoves options names p q := by
  have blocks := block_reordered options names reorders
  have whole : (ofProgram options names p).report.isWhole
      = (ofProgram options names q).report.isWhole := by
    rw [Bool.eq_iff_iff, isWhole_ofProgram_iff, isWhole_ofProgram_iff]
    exact reorders.shallow_iff options.report.suppression
  refine ⟨blocks, items_eq_blocks options names p, items_eq_blocks options names q, whole, ?_, ?_,
    p.collect_fresh_eq, ?_, judgement_reordered options names reorders⟩
  · intro complete palette
    exact ⟨render_eq_blocks complete palette, render_eq_blocks (whole ▸ complete) palette⟩
  · rw [funext blocks]
    exact reorders.findings_perm.map _
  · simp only [reorders.placeOf_eq]
    exact q.collect_fresh_eq

def unknownName : Diagnostic := .inFile "face.ts" 4 5 .error 2304 "Cannot find name 'rockz'."

def unknownOption : Diagnostic := .ofText .error 5023 "Unknown compiler option 'targett'."

def unusedLabel : Diagnostic := .inFile "menu.ts" 0 3 .suggestion 7028 "Unused label."

-- Texts and phases interleaved one way and the other; the first text of a file does not stay.
def talkative : List BuildStep := [
  .source "face.ts" "var", .diagnostic .semantic unknownName, .source "menu.ts" "end:",
  .diagnostic .options unknownOption, .diagnostic .semantic unusedLabel,
  .source "face.ts" "var rockz;"]

def terse : List BuildStep := [
  .diagnostic .options unknownOption, .source "face.ts" "var rockz;", .source "menu.ts" "end:",
  .diagnostic .semantic unknownName, .diagnostic .semantic unusedLabel]

end Outcome

end WatchfaceCheck
