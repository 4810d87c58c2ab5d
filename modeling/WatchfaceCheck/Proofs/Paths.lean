import WatchfaceCheck.Path
import WatchfaceCheck.Proofs.LineTexts
namespace WatchfaceCheck

namespace Text

theorem split_around (separator : Char) (a b : List Char) :
    split separator (a ++ separator :: b) = split separator a ++ split separator b := by
  induction a with
  | nil => simp [split]
  | cons c rest ih =>
    rw [List.cons_append, split, split, ih]
    split
    · rfl
    · cases parts : split separator rest with
      | nil => exact absurd parts (split_ne_nil separator rest)
      | cons part others => rfl

end Text

open Text

namespace Path

structure IsStep (name : String) : Prop where
  flat : '/' ∉ name.toList
  moving : isFiller name.toList = false
  downward : isUp name.toList = false

theorem isStep_of_mem {name : String} {c : Char} (flat : '/' ∉ name.toList)
    (listed : c ∈ name.toList) (other : c ≠ '.') : IsStep name := by
  refine ⟨flat, ?_, ?_⟩
  · rw [Bool.eq_false_iff]
    intro filler
    simp only [isFiller, Bool.or_eq_true, beq_iff_eq] at filler
    rcases filler with same | same <;> simp [same, other] at listed
  · rw [Bool.eq_false_iff]
    intro up
    simp only [isUp, beq_iff_eq] at up
    simp [up, other] at listed

theorem mem_parts_of_mem_body {p : Path} {part : Part} (listed : part ∈ p.body) :
    part ∈ p.parts := by
  unfold body at listed
  split at listed
  · exact listed
  · exact List.mem_of_mem_tail listed

theorem mem_parts_of_mem_steps {p : Path} {part : Part} (listed : part ∈ p.steps) :
    part ∈ p.parts := mem_parts_of_mem_body (List.mem_filter.mp listed).1

theorem slash_not_mem_fileName {p : Path} {name : Part} (named : p.fileName? = some name) :
    '/' ∉ name := by
  obtain ⟨last, -⟩ := Option.filter_eq_some_iff.mp named
  exact not_mem_of_mem_split (mem_parts_of_mem_steps (List.mem_of_getLast? last))

theorem mem_of_mem_cut {name : Part} {c : Char} (inside : c ∈ (cut name).1) : c ∈ name := by
  unfold cut at inside
  split at inside
  · next first second before dropped =>
    have kept : second :: before <:+ name.reverse := by
      have whole : first :: second :: before <:+ name.reverse := by
        rw [← dropped]
        exact List.dropWhile_suffix _
      exact (List.suffix_cons first _).trans whole
    exact List.mem_reverse.mp (kept.subset (List.mem_reverse.mp inside))
  · exact inside

theorem slash_not_mem_stem {p : Path} {stem : Part} (stemmed : p.stem? = some stem) :
    '/' ∉ stem := by
  obtain ⟨name, named, rfl⟩ := Option.map_eq_some_iff.mp stemmed
  intro inside
  exact slash_not_mem_fileName named (mem_of_mem_cut inside)

theorem steps_of_parts {p q : Path} {front a b : List Part} (begun : front ≠ [])
    (first : p.parts = front ++ a) (second : q.parts = front ++ b)
    (alike : p.isAbsolute = q.isAbsolute) :
    ∃ shared, p.steps = shared ++ a.filter (fun part => !isFiller part)
      ∧ q.steps = shared ++ b.filter (fun part => !isFiller part) := by
  cases front with
  | nil => exact absurd rfl begun
  | cons part others =>
    have anchors : p.anchor = q.anchor := by
      unfold anchor
      rw [first, second, alike]
      rfl
    unfold steps body
    rw [first, second, ← anchors]
    split
    · exact ⟨_, List.filter_append .., List.filter_append ..⟩
    · exact ⟨_, List.filter_append .., List.filter_append ..⟩

theorem filter_step {name : String} (step : IsStep name) :
    [name.toList].filter (fun part => !isFiller part) = [name.toList] := by
  rw [List.filter_cons_of_pos (by simp [step.moving]), List.filter_nil]

theorem not_isAbsolute_step {name : String} (step : IsStep name) :
    (⟨name⟩ : Path).isAbsolute = false := by
  unfold isAbsolute
  cases text : name.toList with
  | nil => rfl
  | cons c rest =>
    have other : c ≠ '/' := by
      rintro rfl
      exact step.flat (text ▸ List.mem_cons_self)
    simpa using other

theorem steps_step {name : String} (step : IsStep name) : (⟨name⟩ : Path).steps = [name.toList] := by
  have parts : (⟨name⟩ : Path).parts = [name.toList] := split_of_not_mem step.flat
  have unanchored : (⟨name⟩ : Path).anchor = .unstated := by
    have other : ¬ (some name.toList == some ['.']) = true := by
      intro same
      have moving := step.moving
      simp only [beq_iff_eq, Option.some.injEq] at same
      simp [isFiller, same] at moving
    unfold anchor
    rw [not_isAbsolute_step step, parts, List.head?_cons, if_neg Bool.false_ne_true, if_neg other]
  unfold steps body
  rw [unanchored, parts, filter_step step]

theorem isAbsolute_append {text : String} (given : text.toList ≠ []) (more : String) :
    (⟨text⟩ : Path).isAbsolute = (⟨text ++ more⟩ : Path).isAbsolute := by
  unfold isAbsolute
  rw [String.toList_append, List.head?_append_of_ne_nil _ given]

-- A relative path takes all its parts that lead somewhere; the dot that it may begin with does not.
theorem filter_parts {p : Path} (relative : p.isAbsolute = false) :
    p.parts.filter (fun part => !isFiller part) = p.steps := by
  unfold steps body
  cases anchored : p.anchor with
  | unstated => rfl
  | root =>
    unfold anchor at anchored
    rw [relative] at anchored
    split at anchored
    · contradiction
    · split at anchored <;> cases anchored
  | here =>
    unfold anchor at anchored
    rw [relative] at anchored
    cases parts : p.parts with
    | nil => rfl
    | cons first others =>
      have dot : first = ['.'] := by
        by_contra other
        simp [parts, other] at anchored
      subst dot
      rfl

theorem steps_continued {text more : String} {p : Path} {front rest : List Part}
    (relative : p.isAbsolute = false) (given : text.toList ≠ []) (begun : front ≠ [])
    (nowhere : rest.filter (fun part => !isFiller part) = [])
    (base : (⟨text⟩ : Path).parts = front ++ rest)
    (longer : (⟨text ++ more⟩ : Path).parts = front ++ p.parts) :
    (⟨text ++ more⟩ : Path).steps = (⟨text⟩ : Path).steps ++ p.steps := by
  obtain ⟨shared, before, after⟩ := steps_of_parts begun base longer (isAbsolute_append given more)
  rw [before, after, nowhere, List.append_nil, filter_parts relative]

theorem steps_join_relative (base : Path) {p : Path} (relative : p.isAbsolute = false) :
    (base.join p).steps = base.steps ++ p.steps := by
  obtain ⟨text⟩ := base
  unfold join
  rw [if_neg (by simp [relative])]
  rcases List.eq_nil_or_concat text.toList with empty | ⟨front, last, ends⟩
  · have blank : text = "" := String.toList_eq_nil_iff.mp empty
    have nowhere : (⟨""⟩ : Path).steps = [] := by decide
    subst blank
    rw [nowhere, List.nil_append, if_pos (by rfl), String.empty_append]
  · have given : text.toList ≠ [] := by simp [ends]
    have stated : text.isEmpty = false := by
      rw [Bool.eq_false_iff, ne_eq, String.isEmpty_iff]
      rintro rfl
      exact given rfl
    rw [List.concat_eq_append] at ends
    rw [stated, Bool.false_or, ends, List.getLast?_concat]
    -- A slash is put between the two only where the base does not end in one.
    by_cases slash : last = '/'
    · have nowhere : ([[]] : List Part).filter (fun part => !isFiller part) = [] := by decide
      subst slash
      rw [if_pos (by rfl)]
      refine steps_continued relative given (split_ne_nil '/' front) nowhere ?_ ?_
      · rw [parts, ends, split_around]
        rfl
      · rw [parts, String.toList_append, ends, List.append_assoc, List.singleton_append,
          split_around, parts]
    · have nowhere : ([] : List Part).filter (fun part => !isFiller part) = [] := rfl
      rw [if_neg (by simpa using slash), String.append_assoc]
      refine steps_continued relative given (split_ne_nil '/' text.toList) nowhere ?_ ?_
      · rw [parts, List.append_nil]
      · rw [parts, String.toList_append, String.toList_append]
        exact split_around '/' text.toList p.text.toList

theorem steps_join (base : Path) {name : String} (step : IsStep name) :
    (base.join ⟨name⟩).steps = base.steps ++ [name.toList] := by
  rw [steps_join_relative base (not_isAbsolute_step step), steps_step step]

end Path

end WatchfaceCheck
