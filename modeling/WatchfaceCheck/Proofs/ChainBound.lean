import WatchfaceCheck.Proofs.Collecting
namespace WatchfaceCheck

namespace Diagnostic

def bounded (d : Diagnostic) : Diagnostic := { d with chain := d.chain.take 64 }

theorem messages_bounded (d : Diagnostic) : d.bounded.messages = d.messages := by
  unfold messages bounded chainLimit
  rw [List.take_take, Nat.min_self]

theorem headText_bounded (d : Diagnostic) : d.bounded.headText = d.headText := by
  unfold headText bounded
  cases d.chain <;> rfl

theorem mentionsStub_bounded (d : Diagnostic) : d.bounded.mentionsStub = d.mentionsStub := by
  unfold mentionsStub
  rw [messages_bounded]

end Diagnostic

namespace Suppression

theorem suppresses_bounded (policy : Suppression) (phase : Phase) (d : Diagnostic) :
    policy.suppresses phase d.bounded = policy.suppresses phase d := by
  cases policy with
  | nothing => rfl
  | objectLiteralProperty =>
    simp only [suppresses, d.headText_bounded, d.mentionsStub_bounded]
    rfl

end Suppression

namespace Located

def bounded (found : Located) : Located := { found with diagnostic := found.diagnostic.bounded }

theorem messages_bounded (found : Located) :
    found.bounded.diagnostic.messages = found.diagnostic.messages :=
  found.diagnostic.messages_bounded

theorem excerptItems_bounded (indexes : LineIndexes) (found : Located) :
    found.bounded.excerptItems indexes = found.excerptItems indexes := by
  unfold excerptItems
  rw [messages_bounded]
  rfl

theorem items_bounded (options : ReportOptions) (names : NameMap) (indexes : LineIndexes)
    (found : Located) : found.bounded.items options names indexes
      = found.items options names indexes := by
  unfold items messageItems
  rw [excerptItems_bounded, messages_bounded]
  rfl

end Located

namespace Report

variable (options : ReportOptions) (names : NameMap) (indexes : LineIndexes)

theorem shown_bounded (suppression : Suppression) (found : List Located) :
    shown suppression (found.map Located.bounded)
      = (shown suppression found).map Located.bounded := by
  unfold shown
  rw [List.filter_map]
  congr 1
  refine List.filter_congr ?_
  intro one _
  exact congrArg not (suppression.suppresses_bounded one.phase one.diagnostic)

theorem ofLocated_bounded (found : List Located) :
    ofLocated options names indexes (found.map Located.bounded)
      = ofLocated options names indexes found := by
  unfold ofLocated
  rw [shown_bounded, List.flatMap_map]
  congr 1
  exact List.flatMap_congr fun one _ => one.items_bounded options names indexes

theorem length_lines_le (found : List Located) :
    (ofLocated options names indexes found).lines.length ≤ 64 * found.length := by
  induction found with
  | nil => exact Nat.le_refl 0
  | cons one rest ih =>
    rw [List.length_cons, Nat.mul_succ]
    cases dropped : options.suppression.suppresses one.phase one.diagnostic with
    | true =>
      rw [lines_ofLocated, shown_dropped dropped, ← lines_ofLocated options names indexes]
      omega
    | false =>
      have own := Nat.min_le_left 64 one.diagnostic.chain.length
      rw [lines_ofLocated, shown_kept dropped, List.flatMap_cons, List.length_append,
        ← lines_ofLocated options names indexes, Located.length_lines]
      omega

end Report

namespace Snapshot

def bounded (program : Snapshot) : Snapshot where
  options := program.options.map Diagnostic.bounded
  global := program.global.map Diagnostic.bounded
  syntactic := program.syntactic.map Diagnostic.bounded
  semantic := program.semantic.map Diagnostic.bounded
  sources := program.sources

theorem diagnostics_bounded (program : Snapshot) (phase : Phase) :
    program.bounded.diagnostics phase = (program.diagnostics phase).map Diagnostic.bounded := by
  cases phase <;> rfl

theorem findings_bounded (program : Snapshot) : program.bounded.findings
    = program.findings.map fun finding => (finding.1, finding.2.bounded) := by
  unfold findings
  rw [List.map_flatMap]
  refine List.flatMap_congr ?_
  intro phase _
  rw [diagnostics_bounded, List.map_map, List.map_map]
  rfl

theorem addProgram_bounded (indexes : LineIndexes) (program : Snapshot) :
    indexes.addProgram program.bounded = indexes.addProgram program := by
  unfold LineIndexes.addProgram
  rw [findings_bounded, List.filterMap_map]
  rfl

theorem locate_bounded (program : Snapshot) (indexes : LineIndexes) :
    program.bounded.locate indexes = (program.locate indexes).map Located.bounded := by
  rw [locate_eq, locate_eq, findings_bounded, List.map_map, List.map_map]
  rfl

theorem suppresses_bounded (program : Snapshot) (policy : Suppression) (phase : Phase) :
    (program.bounded.diagnostics phase).map (policy.suppresses phase)
      = (program.diagnostics phase).map (policy.suppresses phase) := by
  rw [diagnostics_bounded, List.map_map]
  exact List.map_congr_left fun d _ => policy.suppresses_bounded phase d

theorem indexes_bounded (program : Snapshot) (indexes : LineIndexes) :
    (program.bounded.collect indexes).1 = (program.collect indexes).1 := by
  rw [collect_eq, collect_eq, addProgram_bounded]

theorem positions_bounded (program : Snapshot) (indexes : LineIndexes) :
    (program.bounded.collect indexes).2.map Located.position
      = (program.collect indexes).2.map Located.position := by
  rw [collect_eq, collect_eq, addProgram_bounded, locate_bounded, List.map_map]
  rfl

end Snapshot

namespace Outcome

theorem ofProgram_bounded (options : CheckOptions) (names : NameMap) (program : Snapshot) :
    ofProgram options names program.bounded = ofProgram options names program := by
  simp only [ofProgram, ofLocated, Snapshot.addProgram_bounded, Snapshot.locate_bounded,
    Report.ofLocated_bounded]

-- Nothing that a run decides, places or prints tells the one program from the other.
structure Indistinct (a b : Snapshot) : Prop where
  suppressed : ∀ (policy : Suppression) (phase : Phase),
    (a.diagnostics phase).map (policy.suppresses phase)
      = (b.diagnostics phase).map (policy.suppresses phase)
  indexed : ∀ indexes, (a.collect indexes).1 = (b.collect indexes).1
  positions : ∀ indexes,
    (a.collect indexes).2.map Located.position = (b.collect indexes).2.map Located.position
  outcome : ∀ options names, ofProgram options names a = ofProgram options names b
  text : ∀ options names palette,
    (ofProgram options names a).report.render palette
      = (ofProgram options names b).report.render palette
  judgement : ∀ options names,
    (ofProgram options names a).judgement = (ofProgram options names b).judgement

theorem indistinct_of_bounded {a b : Snapshot} (same : a.bounded = b.bounded) :
    Indistinct a b := by
  have outcome : ∀ options names, ofProgram options names a = ofProgram options names b := by
    intro options names
    rw [← ofProgram_bounded options names a, same, ofProgram_bounded]
  refine ⟨?_, ?_, ?_, outcome, ?_, ?_⟩
  · intro policy phase
    rw [← a.suppresses_bounded, same, b.suppresses_bounded]
  · intro indexes
    rw [← a.indexes_bounded, same, b.indexes_bounded]
  · intro indexes
    rw [← a.positions_bounded, same, b.positions_bounded]
  · intro options names palette
    rw [outcome]
  · intro options names
    rw [outcome]

theorem beyond_bound_unseen :
    (∀ a b : Snapshot, a.bounded = b.bounded → Indistinct a b)
      ∧ ∀ options names (program : Snapshot),
        (ofProgram options names program).report.lines.length ≤ 64 * program.size := by
  refine ⟨fun a b same => indistinct_of_bounded same, ?_⟩
  intro options names program
  have bound := Report.length_lines_le options.report names
    (LineIndexes.addProgram .empty program) (program.locate (LineIndexes.addProgram .empty program))
  have length : (program.locate (LineIndexes.addProgram .empty program)).length = program.size :=
    List.length_map _
  rwa [length] at bound

def overlong (last : String) : Snapshot where
  semantic := [{
    category := .error
    code := 2339
    chain := List.replicate 64
        { code := 2339, text := "Property 'x' does not exist on type '\x7b\x7d'.", category := .error }
      ++ [{ code := 2322, text := last, category := .message, depth := 1 }] }]

theorem stub_beyond_bound_unseen :
    (overlong "Type 'IsNotImplementedInRockyYet'.").bounded = (overlong "Type 'number'.").bounded
      ∧ (overlong "Type 'IsNotImplementedInRockyYet'.").semantic
        ≠ (overlong "Type 'number'.").semantic
      ∧ Indistinct (overlong "Type 'IsNotImplementedInRockyYet'.") (overlong "Type 'number'.") := by
  have same : (overlong "Type 'IsNotImplementedInRockyYet'.").bounded
      = (overlong "Type 'number'.").bounded := rfl
  refine ⟨same, by decide +kernel, ?_⟩
  exact (beyond_bound_unseen).1 _ _ same

end Outcome

end WatchfaceCheck
