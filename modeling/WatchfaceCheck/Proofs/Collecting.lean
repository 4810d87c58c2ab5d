import Mathlib.Data.List.Dedup
import WatchfaceCheck.Proofs.Dictionary
import WatchfaceCheck.Proofs.Findings
namespace WatchfaceCheck

namespace Snapshot

def mentioned (program : Snapshot) : List String :=
  program.findings.filterMap fun finding => finding.2.file

def givenText (program : Snapshot) (file : String) : String := (program.sourceText? file).getD ""

-- The text that counts for a file: that of the first program with a diagnostic in the file.
def firstText? (programs : List Snapshot) (file : String) : Option String :=
  (programs.find? fun program => program.mentioned.contains file).map fun program =>
    program.givenText file

theorem firstText?_concat (programs : List Snapshot) (program : Snapshot) (file : String) :
    firstText? (programs ++ [program]) file = (firstText? programs file).or
      (if file ∈ program.mentioned then some (program.givenText file) else none) := by
  unfold firstText?
  rw [List.find?_append, List.find?_singleton]
  cases programs.find? fun program => program.mentioned.contains file with
  | some first => rfl
  | none =>
    by_cases listed : file ∈ program.mentioned
    · simp [listed]
    · simp [listed]

theorem isSome_firstText? {programs : List Snapshot} {file : String} :
    (firstText? programs file).isSome = true ↔ file ∈ programs.flatMap mentioned := by
  unfold firstText?
  rw [Option.isSome_map, List.find?_isSome, List.mem_flatMap]
  simp only [List.contains_iff_mem]

end Snapshot

namespace LineIndexes

theorem find?_add (indexes : LineIndexes) (file wanted text : String) :
    (indexes.add file text).find? wanted
      = (indexes.find? wanted).or (if wanted = file then some (.ofText text) else none) := by
  unfold add
  cases held : indexes.find? file with
  | some index =>
    by_cases same : wanted = file
    · subst same
      rw [held]
      rfl
    · rw [if_neg same, Option.or_none]
  | none =>
    rw [Dictionary.find?_insert]
    by_cases same : wanted = file
    · subst same
      rw [if_pos rfl, if_pos rfl, held]
      rfl
    · rw [if_neg same, if_neg same, Option.or_none]

theorem find?_addFiles (program : Snapshot) (files : List String) (indexes : LineIndexes)
    (wanted : String) : (files.foldl (addFile program) indexes).find? wanted
      = (indexes.find? wanted).or
        (if wanted ∈ files then some (.ofText (program.givenText wanted)) else none) := by
  induction files generalizing indexes with
  | nil => simp
  | cons file rest ih =>
    rw [List.foldl_cons, ih, addFile, find?_add, Option.or_assoc]
    congr 1
    by_cases same : wanted = file
    · subst same
      simp [Snapshot.givenText]
    · simp [same]

theorem find?_addProgram (indexes : LineIndexes) (program : Snapshot) (wanted : String) :
    (indexes.addProgram program).find? wanted = (indexes.find? wanted).or
      (if wanted ∈ program.mentioned then some (.ofText (program.givenText wanted)) else none) :=
  find?_addFiles program program.mentioned indexes wanted

theorem position?_of_file {indexes : LineIndexes} {d : Diagnostic} {file : String}
    {index : LineIndex} (pointed : d.file = some file) (held : indexes.find? file = some index) :
    indexes.position? d = some (index.position d.start) := by
  simp [position?, pointed, held]

theorem position?_of_no_file {d : Diagnostic} (indexes : LineIndexes) (none : d.file = none) :
    indexes.position? d = Option.none := by
  simp [position?, none]

def Holds (indexes : LineIndexes) (programs : List Snapshot) : Prop :=
  ∀ file, indexes.find? file = (Snapshot.firstText? programs file).map LineIndex.ofText

theorem holds_empty : Holds .empty [] := fun file => Dictionary.find?_empty file

theorem holds_step {indexes : LineIndexes} {programs : List Snapshot} (program : Snapshot)
    (holds : indexes.Holds programs) :
    (indexes.addProgram program).Holds (programs ++ [program]) := by
  intro file
  rw [find?_addProgram, holds file, Snapshot.firstText?_concat]
  cases Snapshot.firstText? programs file with
  | some text => rfl
  | none =>
    by_cases listed : file ∈ program.mentioned
    · simp [listed]
    · simp [listed]

theorem holds_run {indexes : LineIndexes} {earlier : List Snapshot} (programs : List Snapshot)
    (holds : indexes.Holds earlier) :
    (programs.foldl addProgram indexes).Holds (earlier ++ programs) := by
  induction programs generalizing indexes earlier with
  | nil =>
    rw [List.append_nil]
    exact holds
  | cons program rest ih =>
    have result := ih (holds_step program holds)
    rwa [List.append_assoc] at result

theorem Holds.keys_perm {indexes : LineIndexes} {programs : List Snapshot}
    (holds : indexes.Holds programs) :
    indexes.keys.Perm (programs.flatMap Snapshot.mentioned).dedup := by
  refine (List.perm_ext_iff_of_nodup indexes.nodup_keys (List.nodup_dedup _)).mpr ?_
  intro file
  rw [Dictionary.mem_keys_iff, holds file, Option.isSome_map, Snapshot.isSome_firstText?,
    List.mem_dedup]

end LineIndexes

namespace Snapshot

-- Indexes that are made on the way are there at the end, so each diagnostic is positioned as if all
-- files had been indexed before the first.
theorem collectFrom_eq (program : Snapshot) (indexes : LineIndexes)
    (findings : List (Phase × Diagnostic)) :
    let indexed := (findings.filterMap fun finding => finding.2.file).foldl
      (LineIndexes.addFile program) indexes
    program.collectFrom indexes findings = (indexed, findings.map (locateOne indexed)) := by
  induction findings generalizing indexes with
  | nil => rfl
  | cons finding others ih =>
    cases pointed : finding.2.file with
    | none =>
      have reached : LineIndexes.addFileOf program indexes finding.2 = indexes := by
        rw [LineIndexes.addFileOf, pointed]
        rfl
      simp only [collectFrom, reached, ih, List.filterMap_cons, pointed, List.map_cons, locateOne,
        LineIndexes.position?_of_no_file _ pointed]
    | some file =>
      have reached : LineIndexes.addFileOf program indexes finding.2
          = LineIndexes.addFile program indexes file := by
        rw [LineIndexes.addFileOf, pointed]
        rfl
      obtain ⟨index, held⟩ : ∃ index,
          (LineIndexes.addFile program indexes file).find? file = some index := by
        rw [LineIndexes.addFile, LineIndexes.find?_add, if_pos rfl]
        cases indexes.find? file with
        | none => exact ⟨_, rfl⟩
        | some index => exact ⟨index, rfl⟩
      -- The index made here is the one that the remaining diagnostics leave in place.
      have kept := LineIndexes.find?_addFiles program
        (others.filterMap fun finding => finding.2.file)
        (LineIndexes.addFile program indexes file) file
      rw [held, Option.some_or] at kept
      simp only [collectFrom, reached, ih, List.filterMap_cons, pointed, List.foldl_cons,
        List.map_cons, locateOne, LineIndexes.position?_of_file pointed held,
        LineIndexes.position?_of_file pointed kept]

theorem collect_eq (program : Snapshot) (indexes : LineIndexes) : program.collect indexes
    = (indexes.addProgram program, program.locate (indexes.addProgram program)) :=
  program.collectFrom_eq indexes program.findings

theorem getElem?_collectEach (programs : List Snapshot) (indexes : LineIndexes) (place : Nat) :
    (collectEach indexes programs)[place]? = programs[place]?.map fun program =>
      program.collect ((programs.take place).foldl LineIndexes.addProgram indexes) := by
  induction programs generalizing indexes place with
  | nil => rfl
  | cons program rest ih =>
    cases place with
    | zero => rfl
    | succ place =>
      simp only [collectEach, List.getElem?_cons_succ, ih, List.take_succ_cons, List.foldl_cons,
        collect_eq]

structure Collected (programs : List Snapshot) (program : Snapshot)
    (collected : LineIndexes × List Located) : Prop where
  findings : collected.2.map Located.finding
    = program.options.map (Prod.mk .options) ++ program.global.map (Prod.mk .global)
      ++ program.syntactic.map (Prod.mk .syntactic) ++ program.semantic.map (Prod.mk .semantic)
  unplaced : ∀ one ∈ collected.2, one.diagnostic.file = none → one.position = none
  placed : ∀ one ∈ collected.2, ∀ file, one.diagnostic.file = some file →
    ∃ text, firstText? programs file = some text
      ∧ one.position = some ((LineIndex.ofText text).position one.diagnostic.start)
  indexed : ∀ file, collected.1.find? file = (firstText? programs file).map LineIndex.ofText
  keys : collected.1.keys.Perm (programs.flatMap mentioned).dedup

theorem mem_mentioned {program : Snapshot} {indexes : LineIndexes} {one : Located} {file : String}
    (listed : one ∈ program.locate indexes) (pointed : one.diagnostic.file = some file) :
    file ∈ program.mentioned := by
  obtain ⟨finding, found, rfl⟩ := List.mem_map.mp listed
  exact List.mem_filterMap.mpr ⟨finding, found, pointed⟩

theorem position_of_mem {program : Snapshot} {indexes : LineIndexes} {one : Located}
    (listed : one ∈ program.locate indexes) :
    one.position = indexes.position? one.diagnostic := by
  obtain ⟨finding, _, rfl⟩ := List.mem_map.mp listed
  rfl

theorem collected_of_holds {indexes : LineIndexes} {earlier : List Snapshot} (program : Snapshot)
    (holds : indexes.Holds earlier) :
    Collected (earlier ++ [program]) program (program.collect indexes) := by
  have later := LineIndexes.holds_step program holds
  rw [collect_eq]
  refine ⟨?_, ?_, ?_, later, later.keys_perm⟩
  · rw [← findings_eq]
    exact map_finding_locate _ program.findings
  · intro one listed none
    rw [position_of_mem listed, LineIndexes.position?_of_no_file _ none]
  · intro one listed file pointed
    have mentioned : file ∈ (earlier ++ [program]).flatMap Snapshot.mentioned :=
      List.mem_flatMap.mpr ⟨program, by simp, mem_mentioned listed pointed⟩
    obtain ⟨text, given⟩ := Option.isSome_iff_exists.mp (isSome_firstText?.mpr mentioned)
    have held := later file
    rw [given] at held
    exact ⟨text, given, by rw [position_of_mem listed, LineIndexes.position?_of_file pointed held]⟩

theorem collect_fresh (program : Snapshot) {one : Located}
    (listed : one ∈ (program.collect .empty).2) :
    one.position = one.diagnostic.file.map fun file =>
      (LineIndex.ofText (program.givenText file)).position one.diagnostic.start := by
  have collected := collected_of_holds program LineIndexes.holds_empty
  cases pointed : one.diagnostic.file with
  | none => exact collected.unplaced one listed pointed
  | some file =>
    obtain ⟨text, given, placed⟩ := collected.placed one listed file pointed
    rw [collect_eq] at listed
    have first : firstText? ([] ++ [program]) file = some (program.givenText file) := by
      rw [firstText?_concat, if_pos (mem_mentioned listed pointed)]
      rfl
    rw [given] at first
    cases first
    exact placed

theorem collected_by_first_texts (programs : List Snapshot) :
    (∀ place program, programs[place]? = some program → ∃ collected,
        (collectEach .empty programs)[place]? = some collected
          ∧ Collected (programs.take (place + 1)) program collected)
      ∧ ∀ (program : Snapshot), ∀ one ∈ (program.collect .empty).2,
        one.position = one.diagnostic.file.map fun file =>
          (LineIndex.ofText ((program.sourceText? file).getD "")).position
            one.diagnostic.start := by
  refine ⟨?_, fun program _ listed => program.collect_fresh listed⟩
  intro place program listed
  have holds := LineIndexes.holds_run (programs.take place) LineIndexes.holds_empty
  have upTo : programs.take (place + 1) = [] ++ programs.take place ++ [program] := by
    rw [List.take_add_one, listed]
    rfl
  rw [getElem?_collectEach, listed, upTo]
  exact ⟨_, rfl, collected_of_holds program holds⟩

end Snapshot

end WatchfaceCheck
