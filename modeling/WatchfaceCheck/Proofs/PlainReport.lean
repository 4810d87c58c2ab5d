import WatchfaceCheck.Proofs.Report
namespace WatchfaceCheck

namespace ReportOptions

def plain (suppression : Suppression) : ReportOptions :=
  { pretty := false, color := false, suppression }

end ReportOptions

namespace Severity

theorem label_eq_error_iff (severity : Severity) :
    severity.label = "ERROR" ↔ severity = .error := by
  cases severity <;> simp [label]

theorem label_eq_warn_iff (severity : Severity) :
    severity.label = "WARN" ↔ severity = .warning := by
  cases severity <;> simp [label]

end Severity

namespace Excerpt

theorem spaces_append (a b : Nat) : spaces (a + b) = spaces a ++ spaces b := by
  unfold spaces
  rw [← String.ofList_append, List.replicate_append_replicate]

theorem spaces_double (n : Nat) : spaces (2 * n) = String.join (List.replicate n "  ") := by
  induction n with
  | zero => rfl
  | succ n ih =>
    have split : 2 * (n + 1) = 2 + 2 * n := by omega
    have first : spaces 2 = "  " := rfl
    rw [split, spaces_append, first, ih, List.replicate_succ, String.join_cons]

end Excerpt

-- Counted from one. The number after the last of 32 bits is zero where it is counted in 32 bits.
def fromOne (n : UInt32) : Nat := n.toNat + 1

def fromOneWrapped (n : UInt32) : Nat := (n + 1).toNat

theorem fromOneWrapped_of_small {n : UInt32} (small : fromOne n < UInt32.size) :
    fromOneWrapped n = fromOne n := by
  unfold fromOneWrapped
  rw [UInt32.toNat_add]
  exact Nat.mod_eq_of_lt small

theorem fromOneWrapped_last {n : UInt32} (last : ¬ fromOne n < UInt32.size) :
    fromOneWrapped n = 0 ∧ fromOne n = 4294967296 := by
  have bound : n.toNat < UInt32.size := n.toNat_lt_size
  have size : UInt32.size = 4294967296 := rfl
  have number : fromOne n = 4294967296 := by
    unfold fromOne at last ⊢
    omega
  unfold fromOneWrapped
  rw [UInt32.toNat_add]
  change fromOne n % 2 ^ 32 = 0 ∧ _
  rw [number]
  exact ⟨rfl, rfl⟩

-- The shorter of two lists of numbers tells where they were counted with a wrap.
theorem length_fromOneWrapped (n : UInt32) :
    (toString (fromOneWrapped n)).length ≤ (toString (fromOne n)).length
      ∧ ((toString (fromOneWrapped n)).length = (toString (fromOne n)).length →
        fromOne n < UInt32.size) := by
  by_cases small : fromOne n < UInt32.size
  · rw [fromOneWrapped_of_small small]
    exact ⟨Nat.le_refl _, fun _ => small⟩
  · obtain ⟨zero, number⟩ := fromOneWrapped_last small
    have shorter : (toString 0).length < (toString 4294967296).length := by decide
    rw [zero, number]
    exact ⟨Nat.le_of_lt shorter, fun same => absurd same (Nat.ne_of_lt shorter)⟩

namespace Located

variable (count : UInt32 → Nat) (names : NameMap)

def place (found : Located) : String :=
  match found.diagnostic.file, found.position with
  | none, _ => "global"
  | some file, none => (names.find? file).getD file
  | some file, some position =>
    (names.find? file).getD file ++ "(" ++ toString (count position.line) ++ ","
      ++ toString (count position.column) ++ ")"

def label (found : Located) (m : Message) : String := (m.severity found.phase).label

def written (found : Located) (m : Message) : String :=
  found.place count names ++ ": " ++ found.label m ++ " TS" ++ toString m.code.toNat ++ ": "
    ++ String.join (List.replicate m.depth.toNat "  ") ++ m.shownText ++ "\n"

theorem text_location (found : Located) :
    (found.location names).text = found.place fromOneWrapped names := by
  unfold location place
  cases found.diagnostic.file with
  | none => rfl
  | some file =>
    cases found.position with
    | none => rfl
    | some position => rfl

theorem formed_messageLine (found : Located) (m : Message) :
    (found.messageLine names m).formed Palette.plain = found.written fromOneWrapped names m := by
  unfold MessageLine.formed written
  rw [← text_location, ← Excerpt.spaces_double]
  rfl

def Countable (found : Located) : Prop :=
  ∀ file position, found.diagnostic.file = some file → found.position = some position →
    fromOne position.line < UInt32.size ∧ fromOne position.column < UInt32.size

theorem place_of_countable {found : Located} (countable : found.Countable) :
    found.place fromOneWrapped names = found.place fromOne names := by
  unfold place
  cases pointed : found.diagnostic.file with
  | none => rfl
  | some file =>
    cases placed : found.position with
    | none => rfl
    | some position =>
      obtain ⟨line, column⟩ := countable file position pointed placed
      simp only [fromOneWrapped_of_small line, fromOneWrapped_of_small column]

theorem length_place (found : Located) :
    (found.place fromOneWrapped names).length ≤ (found.place fromOne names).length
      ∧ ((found.place fromOneWrapped names).length = (found.place fromOne names).length →
        found.Countable) := by
  cases pointed : found.diagnostic.file with
  | none =>
    simp only [place, pointed]
    exact ⟨Nat.le_refl _, fun _ file position held => by simp [pointed] at held⟩
  | some file =>
    cases placed : found.position with
    | none =>
      simp only [place, pointed, placed]
      exact ⟨Nat.le_refl _, fun _ file position _ held => by simp [placed] at held⟩
    | some position =>
      have line := length_fromOneWrapped position.line
      have column := length_fromOneWrapped position.column
      simp only [place, pointed, placed, String.length_append]
      refine ⟨by omega, ?_⟩
      intro same file' position' _ held
      rw [placed] at held
      cases held
      exact ⟨line.2 (by omega), column.2 (by omega)⟩

theorem length_written (found : Located) (m : Message) :
    (found.written fromOneWrapped names m).length ≤ (found.written fromOne names m).length
      ∧ ((found.written fromOneWrapped names m).length = (found.written fromOne names m).length →
        found.Countable) := by
  have place := found.length_place names
  simp only [written, String.length_append]
  exact ⟨by omega, fun same => place.2 (by omega)⟩

end Located

theorem length_eq_of_join_eq {α : Type} {short long : α → String} {parts : List α}
    (shorter : ∀ part ∈ parts, (short part).length ≤ (long part).length)
    (same : (String.join (parts.map short)).length = (String.join (parts.map long)).length) :
    ∀ part ∈ parts, (short part).length = (long part).length := by
  have longer (others : List α) (each : ∀ part ∈ others, (short part).length ≤ (long part).length) :
      (String.join (others.map short)).length ≤ (String.join (others.map long)).length := by
    induction others with
    | nil => exact Nat.le_refl _
    | cons part others ih =>
      obtain ⟨first, each⟩ := List.forall_mem_cons.mp each
      have rest := ih each
      simp only [List.map_cons, String.join_cons, String.length_append]
      omega
  induction parts with
  | nil => exact fun part listed => absurd listed List.not_mem_nil
  | cons part others ih =>
    obtain ⟨first, shorter⟩ := List.forall_mem_cons.mp shorter
    have rest := longer others shorter
    simp only [List.map_cons, String.join_cons, String.length_append] at same
    exact List.forall_mem_cons.mpr ⟨by omega, ih shorter (by omega)⟩

namespace Report

def owed (suppression : Suppression) (found : List Located) : List (Located × Message) :=
  (found.filter fun one => !suppression.suppresses one.phase one.diagnostic).flatMap fun one =>
    (one.diagnostic.chain.take 64).map fun m => (one, m)

structure Tells (report : Report) (names : NameMap) (owed : List (Located × Message)) : Prop where
  text : report.render Palette.plain
    = String.join (owed.map fun line => line.1.written fromOne names line.2)
  counted : ∃ tally, report.tally? = some tally
    ∧ tally.errors = (owed.countP fun line => line.1.label line.2 = "ERROR")
    ∧ tally.warnings = (owed.countP fun line => line.1.label line.2 = "WARN")
    ∧ tally.total = owed.length

def Tellable (line : Located × Message) : Prop :=
  line.2.depth.toNat < MessageLine.depthLimit ∧ line.1.Countable

variable (names : NameMap) (indexes : LineIndexes) (suppression : Suppression)

theorem shallow_iff_owed (found : List Located) :
    suppression.Shallow (found.map Located.finding)
      ↔ ∀ line ∈ owed suppression found, line.2.depth.toNat < MessageLine.depthLimit := by
  constructor
  · intro shallow line listed
    obtain ⟨one, shown, told⟩ := List.mem_flatMap.mp listed
    obtain ⟨m, said, rfl⟩ := List.mem_map.mp told
    rw [List.mem_filter, Bool.not_eq_true'] at shown
    exact shallow one.finding (List.mem_map_of_mem shown.1) shown.2 m said
  · intro shallow finding listed kept m said
    obtain ⟨one, member, rfl⟩ := List.mem_map.mp listed
    refine shallow (one, m) (List.mem_flatMap.mpr ⟨one, ?_, List.mem_map_of_mem said⟩)
    rw [List.mem_filter, Bool.not_eq_true']
    exact ⟨member, kept⟩

theorem lines_owed (options : ReportOptions) (found : List Located) :
    (ofLocated options names indexes found).lines
      = (owed options.suppression found).map fun line => line.1.messageLine names line.2 := by
  rw [lines_ofLocated]
  unfold owed
  rw [List.map_flatMap]
  refine List.flatMap_congr ?_
  intro one _
  rw [List.map_map]
  rfl

theorem items_plain (found : List Located) :
    (ofLocated (.plain suppression) names indexes found).items
      = (ofLocated (.plain suppression) names indexes found).lines.map .message := by
  rw [lines_ofLocated, List.map_flatMap]
  refine List.flatMap_congr ?_
  intro one _
  exact one.messageItems_eq names

theorem render_plain {found : List Located}
    (whole : (ofLocated (.plain suppression) names indexes found).isWhole = true) :
    (ofLocated (.plain suppression) names indexes found).render Palette.plain
      = String.join ((owed suppression found).map fun line =>
        line.1.written fromOneWrapped names line.2) := by
  rw [render_eq, written_of_whole whole, items_plain, lines_owed, List.map_map, List.map_map]
  congr 1
  refine List.map_congr_left ?_
  intro line _
  exact line.1.formed_messageLine names line.2

theorem count_label {severity : Severity} {name : String}
    (named : ∀ other : Severity, other.label = name ↔ other = severity)
    (owed : List (Located × Message)) :
    ((owed.map fun line => line.1.messageLine names line.2).map MessageLine.severity).count severity
      = owed.countP fun line => line.1.label line.2 = name := by
  rw [List.map_map, List.count_eq_countP, List.countP_map]
  refine List.countP_congr ?_
  intro line _
  simp [Located.label, Located.messageLine, named]

theorem count_owed (options : ReportOptions) (found : List Located) :
    (ofLocated options names indexes found).count
      = ⟨(owed options.suppression found).countP fun line => line.1.label line.2 = "ERROR",
        (owed options.suppression found).countP fun line => line.1.label line.2 = "WARN",
        (owed options.suppression found).length⟩ := by
  rw [count_eq, Tally.ofSeverities_eq, lines_owed, count_label names Severity.label_eq_error_iff,
    count_label names Severity.label_eq_warn_iff, List.length_map, List.length_map]

theorem tells_of_tellable {found : List Located}
    (tellable : ∀ line ∈ owed suppression found, Tellable line) :
    (ofLocated (.plain suppression) names indexes found).Tells names (owed suppression found) := by
  have shallow := (shallow_iff_owed suppression found).mpr fun line listed =>
    (tellable line listed).1
  have whole := (isWhole_iff (.plain suppression) names indexes found).mpr shallow
  refine ⟨?_, _, tally?_eq_some_iff.mpr ⟨whole, rfl⟩, ?_⟩
  · rw [render_plain names indexes suppression whole]
    congr 1
    refine List.map_congr_left ?_
    intro line listed
    unfold Located.written
    rw [line.1.place_of_countable names (tellable line listed).2]
  · rw [count_owed names indexes (.plain suppression) found]
    exact ⟨rfl, rfl, rfl⟩

theorem tellable_of_tells {found : List Located}
    (tells : (ofLocated (.plain suppression) names indexes found).Tells names
      (owed suppression found)) : ∀ line ∈ owed suppression found, Tellable line := by
  obtain ⟨text, tally, counted, -⟩ := tells
  have whole := (tally?_eq_some_iff.mp counted).1
  have shallow := (shallow_iff_owed suppression found).mp
    ((isWhole_iff (.plain suppression) names indexes found).mp whole)
  rw [render_plain names indexes suppression whole] at text
  -- The texts are as long only if no number in them has come out shorter by its wrap.
  have lengths := length_eq_of_join_eq
    (fun line _ => (line.1.length_written names line.2).1) (congrArg String.length text)
  intro line listed
  exact ⟨shallow line listed, (line.1.length_written names line.2).2 (lengths line listed)⟩

-- A message that lies too deep, and one in the last column that there is.
def deepError : Message :=
  { code := 1005, text := "';' expected.", category := .error, depth := 4611686018427387904 }

def deepOne : Located := ⟨.syntactic, { category := .error, code := 1005, chain := [deepError] }, none⟩

def farOne : Located :=
  ⟨.syntactic, .inFile "a.ts" 4294967295 0 .error 1005 "';' expected.", some ⟨0, 4294967295⟩⟩

end Report

end WatchfaceCheck
