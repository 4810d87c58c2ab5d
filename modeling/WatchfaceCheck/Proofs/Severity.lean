import WatchfaceCheck.Severity
namespace WatchfaceCheck

namespace Message

def NamesStub (m : Message) : Prop := Stub.marker.toList <:+: m.text.toList

theorem mentionsStub_iff (m : Message) : m.mentionsStub = true ↔ m.NamesStub :=
  Text.occursIn_iff

instance (m : Message) : Decidable m.NamesStub := decidable_of_iff _ m.mentionsStub_iff

-- The two things that make a message an error, whatever the checker thinks of it.
def Fails (phase : Phase) (m : Message) : Prop := phase = .syntactic ∨ m.NamesStub

instance (phase : Phase) (m : Message) : Decidable (m.Fails phase) :=
  inferInstanceAs (Decidable (_ ∨ _))

def Doubtful (phase : Phase) (m : Message) : Prop :=
  ¬ m.Fails phase ∧ (m.category = .warning ∨ m.category = .error)

instance (phase : Phase) (m : Message) : Decidable (m.Doubtful phase) :=
  inferInstanceAs (Decidable (_ ∧ _))

theorem severity_stub {m : Message} (phase : Phase) (named : m.NamesStub) :
    m.severity phase = .error := by
  unfold severity
  rw [if_pos (m.mentionsStub_iff.mpr named)]

theorem shownText_stub {m : Message} (named : m.NamesStub) : m.shownText = Stub.explanation := by
  unfold shownText
  rw [if_pos (m.mentionsStub_iff.mpr named)]

theorem shownText_plain {m : Message} (unnamed : ¬ m.NamesStub) : m.shownText = m.text := by
  unfold shownText
  rw [if_neg fun mentioned => unnamed (m.mentionsStub_iff.mp mentioned)]

theorem severity_error_iff (phase : Phase) (m : Message) :
    m.severity phase = .error ↔ m.Fails phase := by
  by_cases named : m.NamesStub
  · exact iff_of_true (severity_stub phase named) (.inr named)
  · have unmentioned : ¬ m.mentionsStub = true := fun h => named (m.mentionsStub_iff.mp h)
    unfold severity Fails
    rw [if_neg unmentioned]
    cases phase <;> cases m.category <;> simp [named]

theorem severity_warning_iff (phase : Phase) (m : Message) :
    m.severity phase = .warning ↔ m.Doubtful phase := by
  unfold Doubtful
  rw [← severity_error_iff]
  by_cases named : m.NamesStub
  · simp [severity_stub phase named]
  · have unmentioned : ¬ m.mentionsStub = true := fun h => named (m.mentionsStub_iff.mp h)
    unfold severity
    rw [if_neg unmentioned]
    cases phase <;> cases m.category <;> simp

end Message

namespace Diagnostic

theorem mentionsStub_iff (d : Diagnostic) :
    d.mentionsStub = true ↔ ∃ m ∈ d.messages, m.NamesStub := by
  unfold mentionsStub
  rw [List.any_eq_true]
  constructor
  · rintro ⟨m, listed, mentioned⟩
    exact ⟨m, listed, m.mentionsStub_iff.mp mentioned⟩
  · rintro ⟨m, listed, named⟩
    exact ⟨m, listed, m.mentionsStub_iff.mpr named⟩

end Diagnostic

namespace Suppression

theorem semantic_of_suppresses {policy : Suppression} {phase : Phase} {d : Diagnostic}
    (dropped : policy.suppresses phase d = true) : phase = .semantic ∧ d.mentionsStub = false := by
  cases policy with
  | nothing => cases dropped
  | objectLiteralProperty =>
    simp only [suppresses, Bool.and_eq_true, beq_iff_eq, Bool.not_eq_true'] at dropped
    exact ⟨dropped.1.1.1, dropped.2⟩

theorem keeps_syntactic (policy : Suppression) (d : Diagnostic) :
    policy.suppresses .syntactic d = false := by
  cases dropped : policy.suppresses .syntactic d with
  | false => rfl
  | true => exact absurd (semantic_of_suppresses dropped).1 (by decide)

theorem keeps_stub {d : Diagnostic} {m : Message} (policy : Suppression) (phase : Phase)
    (listed : m ∈ d.messages) (named : m.NamesStub) : policy.suppresses phase d = false := by
  cases dropped : policy.suppresses phase d with
  | false => rfl
  | true =>
    have mentioned := d.mentionsStub_iff.mpr ⟨m, listed, named⟩
    rw [(semantic_of_suppresses dropped).2] at mentioned
    cases mentioned

end Suppression

end WatchfaceCheck
