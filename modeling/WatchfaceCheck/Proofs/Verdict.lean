import WatchfaceCheck.Check
import WatchfaceCheck.Proofs.Report
namespace WatchfaceCheck

namespace Snapshot

def voicedIn (suppression : Suppression) (phase : Phase) (found : List Diagnostic) :
    List (Phase × Message) :=
  (found.filter fun d => !suppression.suppresses phase d).flatMap fun d =>
    (d.chain.take 64).map fun m => (phase, m)

def voiced (suppression : Suppression) (program : Snapshot) : List (Phase × Message) :=
  voicedIn suppression .options program.options ++ voicedIn suppression .global program.global
    ++ voicedIn suppression .syntactic program.syntactic
    ++ voicedIn suppression .semantic program.semantic

def errorCount (suppression : Suppression) (program : Snapshot) : Nat :=
  (program.voiced suppression).countP fun voice => voice.2.Fails voice.1

def warningCount (suppression : Suppression) (program : Snapshot) : Nat :=
  (program.voiced suppression).countP fun voice => voice.2.Doubtful voice.1

def locateOne (indexes : LineIndexes) (finding : Phase × Diagnostic) : Located :=
  ⟨finding.1, finding.2, LineIndexes.position? indexes finding.2⟩

theorem locate_eq (program : Snapshot) (indexes : LineIndexes) :
    program.locate indexes = program.findings.map (locateOne indexes) := rfl

theorem map_finding_locate (indexes : LineIndexes) (findings : List (Phase × Diagnostic)) :
    (findings.map (locateOne indexes)).map Located.finding = findings := by
  rw [List.map_map]
  exact List.map_id findings

theorem findings_eq (program : Snapshot) : program.findings =
    program.options.map (Prod.mk .options) ++ program.global.map (Prod.mk .global)
      ++ program.syntactic.map (Prod.mk .syntactic) ++ program.semantic.map (Prod.mk .semantic) := by
  simp [findings, Phase.all, diagnostics]

theorem mem_findings {program : Snapshot} {phase : Phase} {d : Diagnostic} :
    (phase, d) ∈ program.findings ↔ d ∈ program.diagnostics phase := by
  rw [findings_eq]
  cases phase <;> simp [diagnostics]

-- A line's severity depends on its phase and its message, not on where the diagnostic points.
theorem severities_phase (suppression : Suppression) (names : NameMap) (indexes : LineIndexes)
    (phase : Phase) (found : List Diagnostic) :
    ((Report.shown suppression ((found.map (Prod.mk phase)).map (locateOne indexes))).flatMap
        (Located.lines names)).map MessageLine.severity
      = (voicedIn suppression phase found).map fun voice => voice.2.severity voice.1 := by
  induction found with
  | nil => rfl
  | cons d rest ih =>
    have own : ((locateOne indexes (phase, d)).lines names).map MessageLine.severity
        = ((d.chain.take 64).map fun m => (phase, m)).map fun voice => voice.2.severity voice.1 := by
      rw [Located.lines_severity, List.map_map]
      rfl
    rw [List.map_cons, List.map_cons]
    cases dropped : suppression.suppresses phase d with
    | true =>
      rw [Report.shown_dropped dropped]
      simpa [voicedIn, dropped] using ih
    | false =>
      rw [Report.shown_kept dropped, List.flatMap_cons, List.map_append, own, ih]
      simp [voicedIn, dropped]

theorem severities_report (options : ReportOptions) (names : NameMap) (indexes : LineIndexes)
    (program : Snapshot) :
    (Report.ofLocated options names indexes (program.locate indexes)).lines.map
        MessageLine.severity
      = (program.voiced options.suppression).map fun voice => voice.2.severity voice.1 := by
  rw [Report.lines_ofLocated, locate_eq, findings_eq]
  simp only [List.map_append, Report.shown_append, List.flatMap_append, severities_phase, voiced]

theorem count_severity (voices : List (Phase × Message)) (severity : Severity)
    (worth : Phase → Message → Prop) [∀ phase m, Decidable (worth phase m)]
    (meant : ∀ phase m, m.severity phase = severity ↔ worth phase m) :
    (voices.map fun voice => voice.2.severity voice.1).count severity
      = voices.countP fun voice => worth voice.1 voice.2 := by
  rw [List.count_eq_countP, List.countP_map]
  refine List.countP_congr ?_
  intro voice _
  simp [meant]

def tallied (suppression : Suppression) (program : Snapshot) : Tally :=
  ⟨program.errorCount suppression, program.warningCount suppression,
    (program.voiced suppression).length⟩

theorem count_report (options : ReportOptions) (names : NameMap) (indexes : LineIndexes)
    (program : Snapshot) :
    (Report.ofLocated options names indexes (program.locate indexes)).count
      = program.tallied options.suppression := by
  rw [Report.count_eq, severities_report, Tally.ofSeverities_eq, List.length_map]
  rw [count_severity _ .error (fun phase m => m.Fails phase)
    (fun phase m => m.severity_error_iff phase)]
  rw [count_severity _ .warning (fun phase m => m.Doubtful phase)
    (fun phase m => m.severity_warning_iff phase)]
  rfl

end Snapshot

namespace Verdict

-- The verdict that so many errors and warnings call for, and its exit code, each exactly when.
structure Exact (verdict : Verdict) (limit : Option Nat) (errors warnings : Nat) : Prop where
  failed : verdict = .errors errors ∧ verdict.exitStatus.code = 1 ↔ 0 < errors
  exceeded : ∀ most, verdict = .tooManyWarnings warnings most
    ∧ verdict.exitStatus.code = 2 ↔ errors = 0 ∧ limit = some most ∧ most < warnings
  warned : verdict = .warnings warnings ∧ verdict.exitStatus.code = 0 ↔
    errors = 0 ∧ 0 < warnings ∧ ∀ most, limit = some most → warnings ≤ most
  clean : verdict = .clean ∧ verdict.exitStatus.code = 0 ↔ errors = 0 ∧ warnings = 0

theorem exact_of_errors {errors : Nat} (some : 0 < errors) (limit : Option Nat) (warnings : Nat) :
    (Verdict.errors errors).Exact limit errors warnings where
  failed := by simp [exitStatus, ExitStatus.code, some]
  exceeded := by intro most; simp; omega
  warned := by simp; omega
  clean := by simp; omega

theorem exact_of_clean (limit : Option Nat) : Verdict.clean.Exact limit 0 0 where
  failed := by simp
  exceeded := by simp
  warned := by simp
  clean := by simp [exitStatus, ExitStatus.code]

theorem exact_of_warnings {limit : Option Nat} {warnings : Nat} (some : 0 < warnings)
    (allowed : ∀ most, limit = Option.some most → warnings ≤ most) :
    (Verdict.warnings warnings).Exact limit 0 warnings where
  failed := by simp
  exceeded := by
    intro most
    refine iff_of_false (fun h => by cases h.1) ?_
    rintro ⟨-, set, beyond⟩
    exact absurd (allowed most set) (by omega)
  warned := iff_of_true ⟨rfl, rfl⟩ ⟨rfl, some, allowed⟩
  clean := by simp; omega

theorem exact_of_tooMany {most warnings : Nat} (beyond : most < warnings) :
    (Verdict.tooManyWarnings warnings most).Exact (some most) 0 warnings where
  failed := by simp
  exceeded := by
    intro other
    constructor
    · rintro ⟨same, -⟩
      cases same
      exact ⟨rfl, rfl, beyond⟩
    · rintro ⟨-, same, -⟩
      cases same
      exact ⟨rfl, rfl⟩
  warned := by
    refine iff_of_false (fun h => by cases h.1) ?_
    rintro ⟨-, -, allowed⟩
    exact absurd (allowed most rfl) (by omega)
  clean := by simp; omega

theorem ofTally_exact (tally : Tally) (limit : Option Nat) :
    (ofTally tally limit).Exact limit tally.errors tally.warnings := by
  unfold ofTally
  by_cases failed : 0 < tally.errors
  · rw [if_pos failed]
    exact exact_of_errors failed limit tally.warnings
  · have passed : tally.errors = 0 := by omega
    rw [if_neg failed, passed]
    by_cases quiet : tally.warnings = 0
    · rw [if_pos quiet, quiet]
      exact exact_of_clean limit
    · rw [if_neg quiet]
      have warned : 0 < tally.warnings := by omega
      cases limit with
      | none => exact exact_of_warnings warned (fun _ set => by cases set)
      | some most =>
        by_cases beyond : most < tally.warnings
        · simp only [if_pos beyond]
          exact exact_of_tooMany beyond
        · simp only [if_neg beyond]
          refine exact_of_warnings warned ?_
          intro other set
          cases set
          omega

theorem ofTally_of_errors {tally : Tally} {limit : Option Nat} (some : 0 < tally.errors) :
    ofTally tally limit = .errors tally.errors :=
  if_pos some

theorem code_one_iff (verdict : Verdict) :
    verdict.exitStatus.code = 1 ↔ ∃ count, verdict = .errors count := by
  cases verdict <;> simp [exitStatus, ExitStatus.code]

theorem ofTally_failed_iff (tally : Tally) (limit : Option Nat) :
    (ofTally tally limit).exitStatus.code = 1 ↔ 0 < tally.errors := by
  constructor
  · intro code
    obtain ⟨count, failed⟩ := (code_one_iff _).mp code
    unfold ofTally at failed
    by_contra none
    rw [if_neg none] at failed
    split at failed
    · cases failed
    · split at failed
      · cases failed
      · split at failed <;> cases failed
  · intro some
    exact ((ofTally_exact tally limit).failed.mpr some).2

end Verdict

namespace Outcome

def judge (options : CheckOptions) (tally : Tally) : Judgement :=
  ⟨tally, Verdict.ofTally tally options.limit⟩

variable (options : CheckOptions) (names : NameMap)

theorem judgement_ofLocated (indexes : LineIndexes) (found : List Located) :
    (ofLocated options names indexes found).judgement
      = (Report.ofLocated options.report names indexes found).tally?.map (judge options) := rfl

theorem judgement_of_shallow {indexes : LineIndexes} {found : List Located}
    (shallow : options.report.suppression.Shallow (found.map Located.finding)) :
    (ofLocated options names indexes found).judgement
      = some (judge options (Report.ofLocated options.report names indexes found).count) := by
  have whole := (Report.isWhole_iff options.report names indexes found).mpr shallow
  rw [judgement_ofLocated, Report.tally?_eq_some_iff.mpr ⟨whole, rfl⟩]
  rfl

theorem judgement_of_deep {indexes : LineIndexes} {found : List Located}
    (deep : ¬ options.report.suppression.Shallow (found.map Located.finding)) :
    (ofLocated options names indexes found).judgement = none := by
  rw [judgement_ofLocated, Report.tally?,
    if_neg (mt (Report.isWhole_iff options.report names indexes found).mp deep)]
  rfl

theorem isSome_judgement_iff (indexes : LineIndexes) (found : List Located) :
    (ofLocated options names indexes found).judgement.isSome = true
      ↔ options.report.suppression.Shallow (found.map Located.finding) := by
  by_cases shallow : options.report.suppression.Shallow (found.map Located.finding)
  · rw [judgement_of_shallow options names shallow]
    exact iff_of_true rfl shallow
  · rw [judgement_of_deep options names shallow]
    exact iff_of_false Bool.false_ne_true shallow

theorem map_finding_located (program : Snapshot) (indexes : LineIndexes) :
    (program.locate indexes).map Located.finding = program.findings :=
  Snapshot.map_finding_locate indexes program.findings

theorem judgement_ofProgram (program : Snapshot)
    (shallow : options.report.suppression.Shallow program.findings) :
    (ofProgram options names program).judgement
      = some (judge options (program.tallied options.report.suppression)) := by
  rw [← map_finding_located program (LineIndexes.addProgram .empty program)] at shallow
  rw [ofProgram, judgement_of_shallow options names shallow, Snapshot.count_report]

theorem unjudged_ofProgram (program : Snapshot)
    (deep : ¬ options.report.suppression.Shallow program.findings) :
    (ofProgram options names program).judgement = none := by
  rw [← map_finding_located program (LineIndexes.addProgram .empty program)] at deep
  rw [ofProgram, judgement_of_deep options names deep]

theorem isSome_judgement_ofProgram_iff (program : Snapshot) :
    (ofProgram options names program).judgement.isSome = true
      ↔ options.report.suppression.Shallow program.findings := by
  rw [ofProgram, isSome_judgement_iff, map_finding_located]

structure CalledFor (program : Snapshot) (judgement : Judgement) : Prop where
  tally : judgement.tally = ⟨program.errorCount options.report.suppression,
    program.warningCount options.report.suppression,
    (program.voiced options.report.suppression).length⟩
  verdict : judgement.verdict.Exact options.limit
    (program.errorCount options.report.suppression)
    (program.warningCount options.report.suppression)

def semicolonMissing : Snapshot where
  syntactic := [.ofText .error 1005 "';' expected."]

-- A syntax error that lies too deep.
def bottomless : Snapshot where
  syntactic := [{
    category := .error
    code := 1005
    chain := [{ code := 1005, text := "';' expected.", category := .error
                depth := 4611686018427387904 }] }]

end Outcome

end WatchfaceCheck
