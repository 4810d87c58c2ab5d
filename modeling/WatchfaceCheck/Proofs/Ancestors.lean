import Mathlib.Data.List.Infix
import WatchfaceCheck.Proofs.Paths
namespace WatchfaceCheck

open Text

namespace Path

def moving (parts : List Part) : List Part := parts.filter fun part => !isFiller part

def place (p : Path) : Anchor × List Part := (p.anchor, p.steps)

theorem moving_reverse (parts : List Part) : moving parts.reverse = (moving parts).reverse :=
  List.filter_reverse ..

theorem moving_dropWhile (parts : List Part) : moving (parts.dropWhile isFiller) = moving parts := by
  induction parts with
  | nil => rfl
  | cons part others ih =>
    cases filler : isFiller part with
    | true => rw [List.dropWhile_cons_of_pos filler, ih]; simp [moving, filler]
    | false => rw [List.dropWhile_cons_of_neg (by simp [filler])]

theorem moving_split_joinWith {parts : List Part} (flat : ∀ part ∈ parts, '/' ∉ part) :
    moving (split '/' (joinWith '/' parts)) = moving parts := by
  cases parts with
  | nil => rfl
  | cons part others => rw [split_joinWith (List.cons_ne_nil _ _) flat]

theorem isAbsolute_iff (p : Path) : p.isAbsolute = true ↔ p.anchor = .root := by
  unfold anchor
  split
  · next absolute => simp [absolute]
  · next relative =>
    constructor
    · intro absolute
      exact absurd absolute relative
    · intro rooted
      split at rooted <;> cases rooted

theorem isAbsolute_of_parts {p : Path} {next : Part} {more : List Part}
    (parts : p.parts = [] :: next :: more) : p.isAbsolute = true := by
  have joined : joinWith '/' p.parts = p.text.toList := joinWith_split '/' p.text.toList
  rw [parts, joinWith_next, List.nil_append] at joined
  simp [isAbsolute, ← joined]

theorem first_of_isAbsolute {p : Path} {first : Part} {others : List Part}
    (absolute : p.isAbsolute = true) (parts : p.parts = first :: others) : first = [] := by
  cases text : p.text.toList with
  | nil => simp [isAbsolute, text] at absolute
  | cons c rest =>
    have slash : c = '/' := by simpa [isAbsolute, text] using absolute
    unfold Path.parts at parts
    rw [text, slash, split, if_pos rfl] at parts
    exact (List.cons.inj parts).1.symm

theorem anchor_of_dot {p : Path} {others : List Part} (parts : p.parts = ['.'] :: others) :
    p.anchor = .here := by
  unfold anchor
  split
  · next absolute => cases first_of_isAbsolute absolute parts
  · simp [parts]

theorem anchor_of_step {p : Path} {first : Part} {others : List Part}
    (parts : p.parts = first :: others) (step : isFiller first = false) : p.anchor = .unstated := by
  unfold anchor
  split
  · next absolute =>
    rw [first_of_isAbsolute absolute parts] at step
    cases step
  · have undotted : first ≠ ['.'] := by
      rintro rfl
      cases step
    simp [parts, undotted]

theorem begins_with_step {p : Path} (unstated : p.anchor = .unstated) :
    p.parts = [[]] ∨ ∃ first others, p.parts = first :: others ∧ isFiller first = false := by
  cases parts : p.parts with
  | nil => exact absurd parts (split_ne_nil '/' p.text.toList)
  | cons first others =>
    have undotted : first ≠ ['.'] := by
      rintro rfl
      unfold anchor at unstated
      rw [parts] at unstated
      split at unstated <;> simp at unstated
    by_cases empty : first = []
    · subst empty
      cases others with
      | nil => exact .inl rfl
      | cons next more =>
        have rooted := (isAbsolute_iff p).mp (isAbsolute_of_parts parts)
        rw [unstated] at rooted
        cases rooted
    · exact .inr ⟨first, others, rfl, by simp [isFiller, empty, undotted]⟩

section

variable {anchor : Anchor}

-- A path put together from an anchor and parts leads from the anchor along the parts. Without an
-- anchor the first part has to be a step: a path of the parts `.` and `a` would start from a dot.
theorem place_assemble {body : List Part} (flat : ∀ part ∈ body, '/' ∉ part)
    (begun : anchor = .unstated → ∀ part, body.head? = some part → isFiller part = false) :
    (assemble anchor body).place = (anchor, moving body) := by
  have kept := moving_split_joinWith flat
  cases anchor with
  | root =>
    have parts : (assemble .root body).parts = [] :: split '/' (joinWith '/' body) := by
      simp [assemble, Path.parts, split]
    have rooted : (assemble .root body).anchor = .root :=
      (isAbsolute_iff _).mp (by simp [assemble, isAbsolute])
    simp only [place, steps, Path.body, rooted, parts, List.tail_cons]
    rw [← kept, moving]
  | here =>
    cases body with
    | nil => decide
    | cons part others =>
      have parts : (assemble .here (part :: others)).parts
          = ['.'] :: split '/' (joinWith '/' (part :: others)) := by
        simp [assemble, Path.parts, split]
      simp only [place, steps, Path.body, anchor_of_dot parts, parts, List.tail_cons]
      rw [← kept, moving]
  | unstated =>
    have parts : (assemble .unstated body).parts = split '/' (joinWith '/' body) := by
      simp [assemble, Path.parts]
    -- Here the first part decides whether the path comes to start from a dot.
    have unstated : (assemble .unstated body).anchor = .unstated := by
      cases body with
      | nil => decide
      | cons part others =>
        rw [split_joinWith (List.cons_ne_nil _ _) flat] at parts
        exact anchor_of_step parts (begun rfl part rfl)
    simp only [place, steps, Path.body, unstated, parts]
    rw [← kept, moving]

-- Parts of a path last first, cut back to one that is a step. Without an anchor the path begins with
-- a step too.
structure CutBack (anchor : Anchor) (backwards : List Part) : Prop where
  flat : ∀ part ∈ backwards, '/' ∉ part
  ends : ∀ part, backwards.head? = some part → isFiller part = false
  begun : anchor = .unstated → ∀ part, backwards.getLast? = some part → isFiller part = false

theorem CutBack.of_parts {parts : List Part} (flat : ∀ part ∈ parts, '/' ∉ part)
    (begun : anchor = .unstated → ∀ part, parts.getLast? = some part → isFiller part = false) :
    CutBack anchor (parts.dropWhile isFiller) := by
  have cut : parts.dropWhile isFiller <:+ parts := List.dropWhile_suffix isFiller
  refine ⟨?_, ?_, ?_⟩
  · intro part listed
    exact flat part (cut.subset listed)
  · intro part first
    have other := List.head?_dropWhile_not isFiller parts
    rw [first] at other
    exact other
  · intro unstated part last
    obtain ⟨before, whole⟩ := cut
    have given : parts.dropWhile isFiller ≠ [] := by
      intro empty
      rw [empty] at last
      cases last
    apply begun unstated part
    rw [← whole, List.getLast?_append_of_ne_nil before given]
    exact last

theorem CutBack.rest {part : Part} {others : List Part} (cut : CutBack anchor (part :: others)) :
    CutBack anchor (others.dropWhile isFiller) := by
  apply CutBack.of_parts
  · intro other listed
    exact cut.flat other (List.mem_cons_of_mem part listed)
  · intro unstated last ends
    apply cut.begun unstated last
    cases others with
    | nil => cases ends
    | cons next more => rw [List.getLast?_cons_cons]; exact ends

theorem CutBack.place_assemble {backwards : List Part} (cut : CutBack anchor backwards) :
    (assemble anchor backwards.reverse).place = (anchor, (moving backwards).reverse) := by
  rw [Path.place_assemble, moving_reverse]
  · intro part listed
    exact cut.flat part (List.mem_reverse.mp listed)
  · intro unstated part first
    rw [List.head?_reverse] at first
    exact cut.begun unstated part first

-- The last of the paths above one that starts with a dot is the empty path.
def foot : Anchor → List (Anchor × List Part)
  | .root => []
  | .here => [(.unstated, [])]
  | .unstated => []

theorem places_above_nil : (above anchor []).map place = foot anchor := by
  unfold above
  cases anchor with
  | root => rfl
  | here => decide
  | unstated => rfl

-- Every round takes off one step, and what leads nowhere in front of it.
theorem places_above {backwards : List Part} (cut : CutBack anchor backwards) :
    (anchor, (moving backwards).reverse) :: (above anchor backwards).map place
      = (moving backwards).tails.map (fun steps => (anchor, steps.reverse)) ++ foot anchor := by
  induction backwards using above.induct anchor with
  | case1 => rw [places_above_nil]; rfl
  | case2 => rw [places_above_nil]; rfl
  | case3 part rest ih =>
    have step : moving (part :: rest) = part :: moving rest := by
      simp [moving, cut.ends part rfl]
    have next := ih cut.rest
    rw [moving_dropWhile] at next
    have above_next : (above anchor (part :: rest)).map place
        = (anchor, (moving rest).reverse)
          :: (above anchor (rest.dropWhile isFiller)).map place := by
      rw [above, List.map_cons, cut.rest.place_assemble, moving_dropWhile]
    rw [above_next, next, step, List.tails_cons, List.map_cons, List.cons_append]

end

theorem cutBack_body (p : Path) : CutBack p.anchor (p.body.reverse.dropWhile isFiller) := by
  have flat : ∀ part ∈ p.body.reverse, '/' ∉ part := by
    intro part listed
    exact not_mem_of_mem_split (mem_parts_of_mem_body (List.mem_reverse.mp listed))
  by_cases unstated : p.anchor = .unstated
  · have whole : p.body = p.parts := by simp [body, unstated]
    rcases begins_with_step unstated with nothing | ⟨first, others, parts, step⟩
    · rw [whole, nothing]
      refine ⟨by decide, by decide, ?_⟩
      intro _ part last
      cases last
    · apply CutBack.of_parts flat
      intro _ part last
      rw [List.getLast?_reverse, whole, parts, List.head?_cons] at last
      cases last
      exact step
  · apply CutBack.of_parts flat
    intro same
    exact absurd same unstated

theorem places_ancestors (p : Path) :
    p.ancestors.map place
      = p.steps.inits.reverse.map (fun steps => (p.anchor, steps)) ++ foot p.anchor := by
  have steps : (moving (p.body.reverse.dropWhile isFiller)).reverse = p.steps := by
    rw [moving_dropWhile, moving_reverse, List.reverse_reverse]
    rfl
  have told := places_above (cutBack_body p)
  rw [steps] at told
  rw [← steps, ← List.map_reverse_tails, List.map_map]
  exact told

theorem isAbsolute_of_mem_ancestors {p above : Path} (absolute : p.isAbsolute = true)
    (listed : above ∈ p.ancestors) : above.isAbsolute = true := by
  have rooted := (isAbsolute_iff p).mp absolute
  have told : above.place ∈ p.ancestors.map place := List.mem_map_of_mem listed
  rw [places_ancestors, rooted, foot, List.append_nil] at told
  obtain ⟨steps, -, same⟩ := List.mem_map.mp told
  apply (isAbsolute_iff above).mpr
  exact (congrArg Prod.fst same).symm

theorem join_of_isAbsolute {p : Path} (absolute : p.isAbsolute = true) (base : Path) :
    base.join p = p := by
  rw [join, if_pos absolute]

theorem isAbsolute_join {base : Path} (absolute : base.isAbsolute = true) (p : Path) :
    (base.join p).isAbsolute = true := by
  have given : base.text.toList ≠ [] := by
    intro empty
    simp [isAbsolute, empty] at absolute
  unfold join
  split
  · next itself => exact itself
  · split
    · rw [← isAbsolute_append given]
      exact absolute
    · rw [String.append_assoc, ← isAbsolute_append given]
      exact absolute

end Path

end WatchfaceCheck
