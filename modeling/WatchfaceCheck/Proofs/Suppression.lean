import Mathlib.Data.List.Flatten
import WatchfaceCheck.Proofs.Verdict
namespace WatchfaceCheck

namespace Suppression

theorem harmless_of_suppresses {policy : Suppression} {phase : Phase} {d : Diagnostic}
    (dropped : policy.suppresses phase d = true) :
    phase = .semantic ∧ ∀ m ∈ d.chain.take 64, m.severity phase ≠ .error := by
  obtain ⟨rfl, unmarked⟩ := semantic_of_suppresses dropped
  refine ⟨rfl, ?_⟩
  intro m said worth
  rcases (m.severity_error_iff .semantic).mp worth with syntactic | named
  · cases syntactic
  · rw [d.mentionsStub_iff.mpr ⟨m, said, named⟩] at unmarked
    cases unmarked

end Suppression

namespace Report

variable (options : ReportOptions) (names : NameMap) (indexes : LineIndexes)

theorem shown_nothing (found : List Located) : shown .nothing found = found :=
  List.filter_eq_self.mpr fun _ _ => rfl

theorem ofLocated_shown (policy : Suppression) (found : List Located) :
    ofLocated { options with suppression := policy } names indexes found
      = ofLocated { options with suppression := .nothing } names indexes (shown policy found) := by
  simp only [ofLocated, shown_nothing]
  rfl

theorem lines_nothing (found : List Located) :
    (ofLocated { options with suppression := .nothing } names indexes found).lines
      = found.flatMap (Located.lines names) := by
  rw [lines_ofLocated, shown_nothing]

theorem lines_sublist (policy : Suppression) (found : List Located) :
    (ofLocated { options with suppression := policy } names indexes found).lines.Sublist
      (ofLocated { options with suppression := .nothing } names indexes found).lines := by
  rw [lines_nothing, lines_ofLocated]
  exact List.filter_sublist.flatMap _

theorem count_error_shown (policy : Suppression) (found : List Located) :
    (((shown policy found).flatMap (Located.lines names)).map MessageLine.severity).count .error
      = ((found.flatMap (Located.lines names)).map MessageLine.severity).count .error := by
  induction found with
  | nil => rfl
  | cons one rest ih =>
    rw [List.flatMap_cons, List.map_append, List.count_append, ← ih]
    cases dropped : policy.suppresses one.phase one.diagnostic with
    | true =>
      have harmless := (Suppression.harmless_of_suppresses dropped).2
      have none : ((one.lines names).map MessageLine.severity).count .error = 0 := by
        rw [Located.lines_severity, List.count_eq_zero, List.mem_map]
        rintro ⟨m, said, worth⟩
        exact harmless m said worth
      rw [shown_dropped dropped, none, Nat.zero_add]
    | false => rw [shown_kept dropped, List.flatMap_cons, List.map_append, List.count_append]

structure Spares (quiet loud : Tally) : Prop where
  errors : quiet.errors = loud.errors
  warnings : quiet.warnings ≤ loud.warnings
  total : quiet.total ≤ loud.total

theorem count_spares (policy : Suppression) (found : List Located) :
    Spares (ofLocated { options with suppression := policy } names indexes found).count
      (ofLocated { options with suppression := .nothing } names indexes found).count := by
  have fewer := (lines_sublist options names indexes policy found).map MessageLine.severity
  have errors := count_error_shown names policy found
  rw [count_eq, count_eq, Tally.ofSeverities_eq, Tally.ofSeverities_eq]
  refine ⟨?_, fewer.count_le _, fewer.length_le⟩
  rw [lines_nothing, lines_ofLocated]
  exact errors

end Report

namespace Verdict

theorem ofTally_eq_errors_iff (tally : Tally) (limit : Option Nat) (count : Nat) :
    ofTally tally limit = .errors count ↔ 0 < tally.errors ∧ tally.errors = count := by
  constructor
  · intro failed
    have code : (ofTally tally limit).exitStatus.code = 1 := (code_one_iff _).mpr ⟨count, failed⟩
    have some := (ofTally_failed_iff tally limit).mp code
    rw [ofTally_of_errors some] at failed
    cases failed
    exact ⟨some, rfl⟩
  · rintro ⟨some, rfl⟩
    exact ofTally_of_errors some

theorem ofTally_passed_iff (tally : Tally) (limit : Option Nat) :
    (ofTally tally limit).exitStatus.code = 0 ↔
      tally.errors = 0 ∧ ∀ most, limit = some most → tally.warnings ≤ most := by
  unfold ofTally
  by_cases failed : 0 < tally.errors
  · rw [if_pos failed]
    refine iff_of_false (by simp [exitStatus, ExitStatus.code]) ?_
    rintro ⟨passed, -⟩
    omega
  · have passed : tally.errors = 0 := by omega
    rw [if_neg failed]
    by_cases quiet : tally.warnings = 0
    · rw [if_pos quiet, quiet]
      exact iff_of_true rfl ⟨passed, fun most _ => Nat.zero_le most⟩
    · rw [if_neg quiet]
      cases limit with
      | none => exact iff_of_true rfl ⟨passed, fun most set => by cases set⟩
      | some most =>
        by_cases beyond : most < tally.warnings
        · simp only [if_pos beyond]
          refine iff_of_false (by simp [exitStatus, ExitStatus.code]) ?_
          rintro ⟨-, allowed⟩
          have within := allowed most rfl
          omega
        · simp only [if_neg beyond]
          refine iff_of_true rfl ⟨passed, ?_⟩
          rintro other ⟨⟩
          omega

theorem failed_iff_of_spares {quiet loud : Tally} (spares : Report.Spares quiet loud)
    (limit : Option Nat) (count : Nat) :
    ofTally quiet limit = .errors count ↔ ofTally loud limit = .errors count := by
  rw [ofTally_eq_errors_iff, ofTally_eq_errors_iff, spares.errors]

theorem passed_of_spares {quiet loud : Tally} {limit : Option Nat}
    (spares : Report.Spares quiet loud) (passed : (ofTally loud limit).exitStatus.code = 0) :
    (ofTally quiet limit).exitStatus.code = 0 := by
  obtain ⟨errors, allowed⟩ := (ofTally_passed_iff loud limit).mp passed
  refine (ofTally_passed_iff quiet limit).mpr ⟨spares.errors.trans errors, ?_⟩
  intro most set
  exact Nat.le_trans spares.warnings (allowed most set)

end Verdict

namespace CheckOptions

def under (options : CheckOptions) (policy : Suppression) : CheckOptions :=
  { options with report := { options.report with suppression := policy } }

end CheckOptions

namespace Outcome

structure Calmer (calm noisy : Judgement) : Prop where
  tally : Report.Spares calm.tally noisy.tally
  failed : ∀ count, calm.verdict = .errors count ↔ noisy.verdict = .errors count
  passed : noisy.verdict.exitStatus.code = 0 → calm.verdict.exitStatus.code = 0

-- What becomes of a run when the suppression of literals is switched on, beside the run without it
-- over the same diagnostics.
structure Quietens (options : CheckOptions) (names : NameMap) (indexes : LineIndexes)
    (found : List Located) (quiet loud : Outcome) : Prop where
  removed : quiet.report = (ofLocated (options.under .nothing) names indexes
    (found.filter fun one =>
      !Suppression.objectLiteralProperty.suppresses one.phase one.diagnostic)).report
  harmless : ∀ one ∈ found,
    Suppression.objectLiteralProperty.suppresses one.phase one.diagnostic = true →
      one.phase = .semantic ∧ ∀ m ∈ one.diagnostic.chain.take 64, m.severity one.phase ≠ .error
  judged : Suppression.nothing.Shallow (found.map Located.finding) →
    ∃ calm noisy, quiet.judgement = some calm ∧ loud.judgement = some noisy ∧ Calmer calm noisy
  broken : ¬ Suppression.nothing.Shallow (found.map Located.finding) → loud.judgement = none
  silenced : Suppression.objectLiteralProperty.Shallow (found.map Located.finding) ↔
    ∃ calm, quiet.judgement = some calm

theorem calmer_of_spares {quiet loud : Tally} (options : CheckOptions)
    (spares : Report.Spares quiet loud) : Calmer (judge options quiet) (judge options loud) where
  tally := spares
  failed := Verdict.failed_iff_of_spares spares options.limit
  passed := Verdict.passed_of_spares spares

theorem quietens (options : CheckOptions) (names : NameMap) (indexes : LineIndexes)
    (found : List Located) : Quietens options names indexes found
      (ofLocated (options.under .objectLiteralProperty) names indexes found)
      (ofLocated (options.under .nothing) names indexes found) where
  removed := Report.ofLocated_shown options.report names indexes .objectLiteralProperty found
  harmless := fun one _ dropped => Suppression.harmless_of_suppresses dropped
  judged := by
    intro shallow
    have left : Suppression.objectLiteralProperty.Shallow (found.map Located.finding) :=
      fun finding listed _ => shallow finding listed rfl
    exact ⟨_, _, judgement_of_shallow (options.under .objectLiteralProperty) names left,
      judgement_of_shallow (options.under .nothing) names shallow,
      calmer_of_spares options (Report.count_spares options.report names indexes _ found)⟩
  broken := judgement_of_deep (options.under .nothing) names
  silenced := by
    rw [← Option.isSome_iff_exists]
    exact (isSome_judgement_iff (options.under .objectLiteralProperty) names indexes found).symm

def literalMisused (depth : UInt64) : Snapshot :=
  { semicolonMissing with
    semantic := [{
      category := .error
      code := 2339
      chain := [{ code := 2339, text := "Property 'x' does not exist on type '\x7b\x7d'."
                  category := .error, depth }] }] }

end Outcome

end WatchfaceCheck
