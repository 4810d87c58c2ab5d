import WatchfaceCheck.Proofs.Discovery
namespace WatchfaceCheck

open Text
open WatchfaceCheck.Path (Part isFiller isUp moving)

-- A path that ends at the root, or by leading up, is one of a directory.
structure FileSystem where
  seenFrom : Path → Files
  fixed : ∀ {p : Path}, p.isAbsolute = true →
    ∀ here there, (seenFrom here).look p = (seenFrom there).look p
  named : ∀ {p here : Path} {file : StoredFile}, p.isAbsolute = true →
    (seenFrom here).look p = .ok (.file file) → ∃ name, p.fileName? = some name

structure Path.Holder (base p : Path) : Prop where
  above : p.parent? = some base
  absolute : base.isAbsolute = true
  entry : ∃ name, p.fileName? = some name ∧ p.steps = base.steps ++ [name]

namespace Path

theorem fileName?_eq_some_iff {p : Path} {name : Part} :
    p.fileName? = some name ↔ p.steps.getLast? = some name ∧ isUp name = false := by
  rw [fileName?, Option.filter_eq_some_iff, Bool.not_eq_true']

theorem steps_of_isAbsolute {p : Path} (absolute : p.isAbsolute = true) :
    p.steps = moving p.parts := by
  obtain ⟨first, others, parts⟩ := List.exists_cons_of_ne_nil (split_ne_nil '/' p.text.toList)
  change p.parts = first :: others at parts
  have empty := first_of_isAbsolute absolute parts
  rw [steps, body, (isAbsolute_iff p).mp absolute, parts, empty]
  rfl

theorem exists_holder {p : Path} (absolute : p.isAbsolute = true) {name : Part}
    (named : p.fileName? = some name) : ∃ base : Path, base.Holder p := by
  obtain ⟨steps, last⟩ := List.getLast?_eq_some_iff.mp (fileName?_eq_some_iff.mp named).1
  have rooted := (isAbsolute_iff p).mp absolute
  have places := places_ancestors p
  rw [rooted, foot, List.append_nil, last, ← List.reverse_reverse (steps ++ [name]),
    ← List.map_reverse_tails, List.reverse_concat] at places
  obtain ⟨-, above⟩ := List.cons.inj places
  have nearest := congrArg List.head? above
  have first : steps.reverse.tails.head? = some steps.reverse := by
    cases steps.reverse <;> rfl
  rw [List.head?_map, List.head?_map, List.head?_map, first] at nearest
  obtain ⟨base, found, place⟩ := Option.map_eq_some_iff.mp nearest
  obtain ⟨anchor, led⟩ := Prod.mk.inj place
  rw [List.reverse_reverse] at led
  refine ⟨base, found, (isAbsolute_iff base).mpr anchor, name, named, ?_⟩
  rw [led, last]

end Path

namespace FileTree

variable {tree : FileTree} {backwards next : List Part} {part : Part}

theorem step_eq_ok (stepped : tree.step backwards part = .ok next) :
    tree.isDirectory backwards.reverse = true
      ∧ (isFiller part = true ∧ next = backwards ∨ isUp part = true ∧ next = backwards.tail
        ∨ isFiller part = false ∧ isUp part = false ∧ next = part :: backwards) := by
  unfold step at stepped
  split at stepped
  · cases stepped
  · next there =>
    refine ⟨by simpa using there, ?_⟩
    split at stepped
    · next filler =>
      cases stepped
      exact .inl ⟨filler, rfl⟩
    · next moving =>
      split at stepped
      · next up =>
        cases stepped
        exact .inr (.inl ⟨up, rfl⟩)
      · next down =>
        split at stepped
        · cases stepped
        · split at stepped
          · cases stepped
            exact .inr (.inr ⟨by simpa using moving, by simpa using down, rfl⟩)
          · cases stepped

def Reached (tree : FileTree) (backwards : List Part) : Prop :=
  ∀ part above, part :: above <:+ backwards → tree.isDirectory above.reverse = true

theorem Reached.step (reached : tree.Reached backwards)
    (stepped : tree.step backwards part = .ok next) : tree.Reached next := by
  obtain ⟨there, ⟨-, rfl⟩ | ⟨-, rfl⟩ | ⟨-, -, rfl⟩⟩ := step_eq_ok stepped
  · exact reached
  · intro name above passed
    exact reached name above (passed.trans (List.tail_suffix backwards))
  · intro name above passed
    rcases List.suffix_cons_iff.mp passed with same | before
    · cases same
      exact there
    · exact reached name above before

theorem Reached.isDirectory_step (reached : tree.Reached backwards)
    (stepped : tree.step backwards part = .ok next) (still : isFiller part = true ∨ isUp part = true) :
    tree.isDirectory next.reverse = true := by
  obtain ⟨there, ⟨-, rfl⟩ | ⟨-, rfl⟩ | ⟨moves, down, -⟩⟩ := step_eq_ok stepped
  · exact there
  · cases backwards with
    | nil => exact there
    | cons name above => exact reached name above List.suffix_rfl
  · rw [moves, down] at still
    cases still with
    | inl filler => cases filler
    | inr up => cases up

-- Where the steps lead to a file, the last part that leads anywhere goes down to its name.
theorem Reached.last_of_file {parts names : List Part} {file : StoredFile} (given : parts ≠ [])
    (reached : tree.Reached backwards) (followed : parts.foldlM tree.step backwards = .ok names)
    (leaf : tree.leaf? names.reverse = some (.file file)) :
    ∃ name, (moving parts).getLast? = some name ∧ isUp name = false := by
  induction parts generalizing backwards with
  | nil => exact absurd rfl given
  | cons part parts ih =>
    rw [List.foldlM_cons] at followed
    cases stepped : tree.step backwards part with
    | error e =>
      rw [stepped] at followed
      cases followed
    | ok next =>
      rw [stepped] at followed
      cases parts with
      | nil =>
        cases followed
        -- A last step that stays or leads up would have ended in a directory.
        have goes : ¬ (isFiller part = true ∨ isUp part = true) := by
          intro still
          have directory := reached.isDirectory_step stepped still
          rw [isDirectory, leaf] at directory
          cases directory
        obtain ⟨moves, down⟩ := not_or.mp goes
        refine ⟨part, ?_, Bool.eq_false_iff.mpr down⟩
        simp [moving, moves]
      | cons other others =>
        obtain ⟨name, last, down⟩ := ih (List.cons_ne_nil _ _) (reached.step stepped) followed
        refine ⟨name, ?_, down⟩
        rw [moving, List.filter_cons]
        split
        · rw [List.getLast?_cons]
          exact congrArg some (by rw [← moving, last]; rfl)
        · exact last

theorem followed_of_resolve {p : Path} {current names : List Part} (absolute : p.isAbsolute = true)
    (resolved : tree.resolve current p = .ok names) :
    p.parts.foldlM tree.step [] = .ok names.reverse := by
  simp only [resolve, absolute, if_true] at resolved
  split at resolved
  · cases resolved
  · split at resolved
    · cases resolved
    · split at resolved
      · cases resolved
      · cases followed : p.parts.foldlM tree.step [] with
        | error e =>
          rw [followed] at resolved
          cases resolved
        | ok backwards =>
          rw [followed] at resolved
          cases resolved
          rw [List.reverse_reverse]

theorem leaf?_of_look {p : Path} {current : List Part} {file : StoredFile}
    (look : tree.look current p = .ok (.file file)) :
    ∃ names, tree.resolve current p = .ok names ∧ tree.leaf? names = some (.file file) := by
  unfold FileTree.look at look
  split at look
  · cases look
  · next names resolved =>
    split at look
    · next leaf =>
      cases look
      exact ⟨names, resolved, leaf⟩
    · cases look
    · cases look

theorem fileName?_of_look {p : Path} {current : List Part} {file : StoredFile}
    (absolute : p.isAbsolute = true) (look : tree.look current p = .ok (.file file)) :
    ∃ name, p.fileName? = some name := by
  obtain ⟨names, resolved, leaf⟩ := leaf?_of_look look
  have reached : tree.Reached [] := fun _ _ passed => absurd passed (by simp)
  obtain ⟨name, last, down⟩ := reached.last_of_file (split_ne_nil '/' p.text.toList)
    (followed_of_resolve absolute resolved) (by rwa [List.reverse_reverse])
  refine ⟨name, Path.fileName?_eq_some_iff.mpr ⟨?_, down⟩⟩
  rw [Path.steps_of_isAbsolute absolute]
  exact last

def system (tree : FileTree) : FileSystem where
  seenFrom directory := tree.files ((tree.resolve [] directory).toOption.getD [])
  fixed absolute here there := by
    simp only [files, look]
    rw [resolve_of_isAbsolute absolute]
  named absolute look := fileName?_of_look absolute look

end FileTree

end WatchfaceCheck
