import WatchfaceCheck.Proofs.Verdict
import WatchfaceCheck.Snapshot.Reader
namespace WatchfaceCheck

namespace Snapshot

theorem mem_voicedIn {suppression : Suppression} {phase : Phase} {found : List Diagnostic}
    {voice : Phase × Message} : voice ∈ voicedIn suppression phase found ↔
      voice.1 = phase ∧ ∃ d ∈ found,
        suppression.suppresses phase d = false ∧ voice.2 ∈ d.chain.take 64 := by
  simp only [voicedIn, List.mem_flatMap, List.mem_filter, Bool.not_eq_true', List.mem_map]
  constructor
  · rintro ⟨d, ⟨listed, kept⟩, m, said, rfl⟩
    exact ⟨rfl, d, listed, kept, said⟩
  · rintro ⟨rfl, d, listed, kept, said⟩
    exact ⟨d, ⟨listed, kept⟩, voice.2, said, rfl⟩

theorem mem_voiced {suppression : Suppression} {program : Snapshot} {phase : Phase} {m : Message} :
    (phase, m) ∈ program.voiced suppression ↔ ∃ d ∈ program.diagnostics phase,
      suppression.suppresses phase d = false ∧ m ∈ d.chain.take 64 := by
  simp only [voiced, List.mem_append, mem_voicedIn]
  cases phase <;> simp [diagnostics]

-- What makes a run fail: a syntax error that has a message, or a stub named in any phase.
def Broken (program : Snapshot) : Prop :=
  (∃ d ∈ program.syntactic, d.chain ≠ []) ∨
    ∃ finding ∈ program.findings, ∃ m ∈ finding.2.chain.take 64, m.NamesStub

theorem errorCount_pos_iff (suppression : Suppression) (program : Snapshot) :
    0 < program.errorCount suppression ↔ program.Broken := by
  unfold errorCount
  rw [List.countP_pos_iff]
  constructor
  · rintro ⟨⟨phase, m⟩, voice, fails⟩
    obtain ⟨d, listed, _, said⟩ := mem_voiced.mp voice
    rcases of_decide_eq_true fails with syntactic | named
    · cases syntactic
      exact .inl ⟨d, listed, fun none => by simp [none] at said⟩
    · exact .inr ⟨(phase, d), mem_findings.mpr listed, m, said, named⟩
  · rintro (⟨d, listed, chained⟩ | ⟨⟨phase, d⟩, found, m, said, named⟩)
    · obtain ⟨head, rest, chain⟩ := List.exists_cons_of_ne_nil chained
      have said : head ∈ d.chain.take 64 := by simp [chain]
      refine ⟨(.syntactic, head), mem_voiced.mpr ⟨d, listed, ?_, said⟩, ?_⟩
      · exact suppression.keeps_syntactic d
      · exact decide_eq_true (.inl rfl)
    · refine ⟨(phase, m), mem_voiced.mpr ⟨d, mem_findings.mp found, ?_, said⟩, ?_⟩
      · exact suppression.keeps_stub phase said named
      · exact decide_eq_true (.inr named)

end Snapshot

namespace Outcome

def contribution (options : CheckOptions) (names : NameMap) (program : Snapshot)
    (finding : Phase × Diagnostic) : List MessageLine :=
  let indexes := LineIndexes.addProgram .empty program
  (Report.ofLocated options.report names indexes [Snapshot.locateOne indexes finding]).lines

variable (options : CheckOptions) (names : NameMap) (program : Snapshot)

theorem lines_eq_contributions : (ofProgram options names program).report.lines =
    program.findings.flatMap (contribution options names program) := by
  have each := Report.lines_each options.report names (LineIndexes.addProgram .empty program)
    (program.locate (LineIndexes.addProgram .empty program))
  rw [Snapshot.locate_eq, List.flatMap_map] at each
  exact each

theorem length_contribution {finding : Phase × Diagnostic}
    (kept : options.report.suppression.suppresses finding.1 finding.2 = false) :
    (contribution options names program finding).length = min 64 finding.2.chain.length := by
  let indexes := LineIndexes.addProgram .empty program
  have shown : Report.shown options.report.suppression [Snapshot.locateOne indexes finding]
      = [Snapshot.locateOne indexes finding] := Report.shown_kept kept []
  unfold contribution
  rw [Report.lines_ofLocated, shown, List.flatMap_singleton, Located.length_lines]
  rfl

theorem contribution_nonempty_iff {finding : Phase × Diagnostic}
    (kept : options.report.suppression.suppresses finding.1 finding.2 = false) :
    1 ≤ (contribution options names program finding).length ↔ finding.2.chain ≠ [] := by
  rw [length_contribution options names program kept, ← List.length_pos_iff]
  omega

theorem failed_iff {judgement : Judgement}
    (judged : (ofProgram options names program).judgement = some judgement) :
    (∃ count, judgement.verdict = .errors count) ∧ judgement.verdict.exitStatus.code = 1
      ↔ program.Broken := by
  have shallow := (isSome_judgement_ofProgram_iff options names program).mp (by rw [judged]; rfl)
  rw [judgement_ofProgram options names program shallow] at judged
  cases judged
  rw [← Verdict.code_one_iff, and_self, ← Snapshot.errorCount_pos_iff options.report.suppression]
  exact Verdict.ofTally_failed_iff _ options.limit

theorem judged_counts {judgement : Judgement}
    (judged : (ofProgram options names program).judgement = some judgement) :
    (ofProgram options names program).report.written
        = (ofProgram options names program).report.items
      ∧ judgement.tally = (ofProgram options names program).report.count := by
  obtain ⟨tally, counted, rfl⟩ := Option.map_eq_some_iff.mp judged
  obtain ⟨whole, same⟩ := Report.tally?_eq_some_iff.mp counted
  exact ⟨Report.written_of_whole whole, same.symm⟩

-- What a report owes to the checker: a line for each finding that is not suppressed, all of them
-- counted, and a failure for a syntax error.
structure Heard : Prop where
  lines : ∀ finding ∈ program.findings,
    options.report.suppression.suppresses finding.1 finding.2 = false →
      1 ≤ (contribution options names program finding).length
  judged : ∃ judgement, (ofProgram options names program).judgement = some judgement
    ∧ (program.syntactic ≠ [] → (∃ count, judgement.verdict = .errors count)
      ∧ judgement.verdict.exitStatus.code = 1)

def Worded : Prop := ∀ finding ∈ program.findings,
  options.report.suppression.suppresses finding.1 finding.2 = false → finding.2.chain ≠ []

theorem heard_iff_worded : Heard options names program
    ↔ Worded options program ∧ options.report.suppression.Shallow program.findings := by
  rw [← isSome_judgement_ofProgram_iff options names program, Option.isSome_iff_exists]
  constructor
  · rintro ⟨lines, judgement, judged, -⟩
    refine ⟨?_, judgement, judged⟩
    intro finding found kept
    exact (contribution_nonempty_iff options names program kept).mp (lines finding found kept)
  · rintro ⟨worded, judgement, judged⟩
    refine ⟨?_, judgement, judged, ?_⟩
    · intro finding found kept
      exact (contribution_nonempty_iff options names program kept).mpr (worded finding found kept)
    -- No policy suppresses a syntax error, so its words are among those that are owed.
    · intro some
      obtain ⟨d, listed⟩ := List.exists_mem_of_ne_nil _ some
      have found : (Phase.syntactic, d) ∈ program.findings := Snapshot.mem_findings.mpr listed
      have kept := options.report.suppression.keeps_syntactic d
      exact (failed_iff options names program judged).mpr (.inl ⟨d, listed, worded _ found kept⟩)

-- In a report that is judged every finding is heard through its own lines; a run fails exactly
-- where a syntax error with a message, or a stub, is found.
structure Attentive (judgement : Judgement) : Prop where
  lines : (ofProgram options names program).report.written.filterMap ReportItem.line?
    = program.findings.flatMap (contribution options names program)
  total : judgement.tally.total
    = (program.findings.flatMap (contribution options names program)).length
  failed : (∃ count, judgement.verdict = .errors count) ∧ judgement.verdict.exitStatus.code = 1
    ↔ program.Broken

theorem attentive_of_judged {judgement : Judgement}
    (judged : (ofProgram options names program).judgement = some judgement) :
    Attentive options names program judgement := by
  have lines := lines_eq_contributions options names program
  obtain ⟨whole, counted⟩ := judged_counts options names program judged
  refine ⟨?_, ?_, failed_iff options names program judged⟩
  · rw [whole]
    exact lines
  · rw [counted, Report.total_count, lines]

theorem findings_heard :
    ((∃ judgement, (ofProgram options names program).judgement = some judgement)
        ↔ options.report.suppression.Shallow program.findings)
      ∧ (∀ judgement, (ofProgram options names program).judgement = some judgement →
        Attentive options names program judgement)
      ∧ (∀ finding ∈ program.findings,
        options.report.suppression.suppresses finding.1 finding.2 = false →
          (1 ≤ (contribution options names program finding).length ↔ finding.2.chain ≠ []))
      ∧ (Heard options names program
        ↔ Worded options program ∧ options.report.suppression.Shallow program.findings) := by
  refine ⟨?_, ?_, ?_, heard_iff_worded options names program⟩
  · rw [← isSome_judgement_ofProgram_iff options names program, Option.isSome_iff_exists]
  · exact fun judgement => attentive_of_judged options names program
  · intro finding _ kept
    exact contribution_nonempty_iff options names program kept

-- The checker's answer in the shortest form that admits it: a syntax error without a message.
def wordlessAnswer : String :=
  "\x7b\"syntactic\":[\x7b\"category\":1,\"code\":1005,\"chain\":[]\x7d]\x7d"

theorem wordless_syntax_error_unheard :
    ∃ program, Snapshot.read? (Text.symbolsOf wordlessAnswer) = some program
      ∧ program.syntactic ≠ []
      ∧ (ofProgram {} .empty program).report.items = []
      ∧ (ofProgram {} .empty program).judgement = some ⟨⟨0, 0, 0⟩, .clean⟩
      ∧ Verdict.clean.exitStatus.code = 0
      ∧ ¬ Heard {} .empty program := by
  let program : Snapshot :=
    { syntactic := [{ category := .error, code := 1005, chain := [] }] }
  have read : Snapshot.read? (Text.symbolsOf wordlessAnswer) = some program := by
    with_unfolding_all rfl
  have listed : program.syntactic ≠ [] := by
    intro none
    cases none
  refine ⟨program, read, listed, rfl, rfl, rfl, ?_⟩
  rintro ⟨-, judgement, judged, syntaxErrors⟩
  have clean : some judgement = some ⟨⟨0, 0, 0⟩, .clean⟩ := judged.symm
  cases clean
  have code := (syntaxErrors listed).2
  cases code

end Outcome

end WatchfaceCheck
