import Mathlib.Data.List.InsertIdx
import WatchfaceCheck.Proofs.Suppression
namespace WatchfaceCheck

namespace ExitStatus

-- How bad it is that a run ends so. The last two are of runs that come to no verdict.
def gravity : ExitStatus → Nat
  | .success => 0
  | .warningsExceeded => 1
  | .errors => 2
  | .usage => 3
  | .fault => 4

end ExitStatus

namespace Tally

structure AtMost (few many : Tally) : Prop where
  errors : few.errors ≤ many.errors
  warnings : few.warnings ≤ many.warnings
  total : few.total ≤ many.total

theorem AtMost.refl (tally : Tally) : tally.AtMost tally :=
  ⟨Nat.le_refl _, Nat.le_refl _, Nat.le_refl _⟩

end Tally

def Stricter (lower limit : Option Nat) : Prop :=
  ∀ most, limit = some most → ∃ less, lower = some less ∧ less ≤ most

theorem Stricter.refl (limit : Option Nat) : Stricter limit limit :=
  fun most set => ⟨most, set, Nat.le_refl most⟩

namespace Verdict

theorem gravity_le_two (verdict : Verdict) : verdict.exitStatus.gravity ≤ 2 := by
  cases verdict <;> simp [exitStatus, ExitStatus.gravity]

theorem gravity_eq_zero_iff (verdict : Verdict) :
    verdict.exitStatus.gravity = 0 ↔ verdict.exitStatus.code = 0 := by
  cases verdict <;> simp [exitStatus, ExitStatus.gravity, ExitStatus.code]

theorem gravity_eq_two_iff (verdict : Verdict) :
    verdict.exitStatus.gravity = 2 ↔ verdict.exitStatus.code = 1 := by
  cases verdict <;> simp [exitStatus, ExitStatus.gravity, ExitStatus.code]

-- The warning count alone does not order the verdicts: errors outweigh it, and without a limit it
-- counts for nothing.
theorem gravity_mono {few many : Tally} {limit lower : Option Nat} (atMost : few.AtMost many)
    (stricter : Stricter lower limit) :
    (ofTally few limit).exitStatus.gravity ≤ (ofTally many lower).exitStatus.gravity := by
  by_cases failed : 0 < many.errors
  · have worst : (ofTally many lower).exitStatus.gravity = 2 :=
      (gravity_eq_two_iff _).mpr ((ofTally_failed_iff many lower).mpr failed)
    rw [worst]
    exact gravity_le_two _
  · have errors := atMost.errors
    have fewPassed : few.errors = 0 := by omega
    by_cases passed : (ofTally many lower).exitStatus.code = 0
    · have allowed := ((ofTally_passed_iff many lower).mp passed).2
      -- What the stricter limit allows the looser one allows too.
      have best : (ofTally few limit).exitStatus.gravity = 0 := by
        refine (gravity_eq_zero_iff _).mpr ((ofTally_passed_iff few limit).mpr ⟨fewPassed, ?_⟩)
        intro most set
        obtain ⟨less, given, below⟩ := stricter most set
        exact Nat.le_trans atMost.warnings (Nat.le_trans (allowed less given) below)
      rw [best]
      exact Nat.zero_le _
    · have raised : (ofTally many lower).exitStatus.gravity ≠ 0 :=
        fun none => passed ((gravity_eq_zero_iff _).mp none)
      have unfailed : (ofTally few limit).exitStatus.gravity ≠ 2 := by
        intro worst
        have some := (ofTally_failed_iff few limit).mp ((gravity_eq_two_iff _).mp worst)
        omega
      have bound := gravity_le_two (ofTally few limit)
      omega

end Verdict

namespace Snapshot

def insertAt (program : Snapshot) (phase : Phase) (place : Nat) (d : Diagnostic) : Snapshot :=
  match phase with
  | .options => { program with options := program.options.insertIdx place d }
  | .global => { program with global := program.global.insertIdx place d }
  | .syntactic => { program with syntactic := program.syntactic.insertIdx place d }
  | .semantic => { program with semantic := program.semantic.insertIdx place d }

-- Whatever the one program finds the other one finds too, phase by phase and in the same order.
def Within (a b : Snapshot) : Prop :=
  ∀ phase, (a.diagnostics phase).Sublist (b.diagnostics phase)

theorem diagnostics_insertAt (program : Snapshot) (phase other : Phase) (place : Nat)
    (d : Diagnostic) : (program.insertAt phase place d).diagnostics other
      = if other = phase then (program.diagnostics other).insertIdx place d
        else program.diagnostics other := by
  cases phase <;> cases other <;> rfl

theorem within_insertAt (program : Snapshot) (phase : Phase) (place : Nat) (d : Diagnostic) :
    program.Within (program.insertAt phase place d) := by
  intro other
  rw [diagnostics_insertAt]
  split
  · exact List.sublist_insertIdx _ place d
  · exact List.Sublist.refl _

theorem voicedIn_sublist (suppression : Suppression) (phase : Phase) {a b : List Diagnostic}
    (within : a.Sublist b) :
    (voicedIn suppression phase a).Sublist (voicedIn suppression phase b) :=
  (within.filter _).flatMap _

theorem voiced_sublist (suppression : Suppression) {a b : Snapshot} (within : a.Within b) :
    (a.voiced suppression).Sublist (b.voiced suppression) := by
  unfold voiced
  refine List.Sublist.append (List.Sublist.append (List.Sublist.append ?_ ?_) ?_) ?_
  · exact voicedIn_sublist suppression .options (within .options)
  · exact voicedIn_sublist suppression .global (within .global)
  · exact voicedIn_sublist suppression .syntactic (within .syntactic)
  · exact voicedIn_sublist suppression .semantic (within .semantic)

end Snapshot

namespace Snapshot

theorem tallied_atMost (suppression : Suppression) {a b : Snapshot} (within : a.Within b) :
    (a.tallied suppression).AtMost (b.tallied suppression) := by
  have voices := voiced_sublist suppression within
  exact ⟨voices.countP_le, voices.countP_le, voices.length_le⟩

theorem shallow_of_within {suppression : Suppression} {a b : Snapshot} (within : a.Within b)
    (shallow : suppression.Shallow b.findings) : suppression.Shallow a.findings := by
  rintro ⟨phase, d⟩ found
  exact shallow (phase, d) (mem_findings.mpr ((within phase).subset (mem_findings.mp found)))

end Snapshot

namespace Outcome

structure NoBetter (better worse : Judgement) : Prop where
  tally : better.tally.AtMost worse.tally
  status : better.verdict.exitStatus.gravity ≤ worse.verdict.exitStatus.gravity

-- A single warning, which no limit but that of zero turns into a failure.
def misspelt : Snapshot where
  semantic := [.inFile "face.ts" 4 5 .error 2304 "Cannot find name 'rockz'."]

end Outcome

end WatchfaceCheck
