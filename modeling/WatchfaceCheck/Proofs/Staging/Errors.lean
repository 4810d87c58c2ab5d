import WatchfaceCheck.Workspace
namespace WatchfaceCheck

theorem exists_error_of_foldlM {α β ε : Type} {f : β → α → Except ε β} {list : List α} {start : β}
    {e : ε} (failed : list.foldlM f start = .error e) : ∃ held x, f held x = .error e := by
  induction list generalizing start with
  | nil => cases failed
  | cons x rest ih =>
    rw [List.foldlM_cons] at failed
    cases stepped : f start x with
    | error other =>
      rw [stepped] at failed
      cases failed
      exact ⟨start, x, stepped⟩
    | ok next =>
      rw [stepped] at failed
      exact ih failed

namespace CheckError

inductive BlamesCall : CheckError → Prop
  | missingInput : BlamesCall .missingInput
  | notFound (path : Path) : BlamesCall (.notFound path)
  | invalidInput (path : Path) : BlamesCall (.invalidInput path)
  | invalidDefinition (path : Path) : BlamesCall (.invalidDefinition path)
  | duplicateInput (name : String) (first second : Path) :
    BlamesCall (.duplicateInput name first second)

theorem isUsage_iff (e : CheckError) : e.isUsage = true ↔ e.BlamesCall := by
  constructor
  · intro usage
    cases e with
    | missingInput => exact .missingInput
    | notFound path => exact .notFound path
    | invalidInput path => exact .invalidInput path
    | invalidDefinition path => exact .invalidDefinition path
    | duplicateInput name first second => exact .duplicateInput name first second
    | toolMissing missing => cases usage
    | io cause => cases usage
    | checkerFailed exitCode complaint => cases usage
    | unreadableAnswer => cases usage
  · intro blame
    cases blame <;> rfl

end CheckError

namespace StagedFile

variable {files : Files} {p : Path} {e : CheckError}

theorem scriptName_blames (failed : scriptName files p = .error e) : e.BlamesCall := by
  unfold scriptName at failed
  split at failed
  · split at failed
    · split at failed
      · cases failed
      · cases failed
        exact .notFound p
    · cases failed
      exact .invalidInput p
  · cases failed
    exact .invalidInput p

theorem claim_blames {claimed : List (String × Path)} (failed : claim files claimed p = .error e) :
    e.BlamesCall := by
  unfold claim at failed
  split at failed
  · next refused =>
    cases failed
    exact scriptName_blames refused
  · split at failed
    · cases failed
      exact .duplicateInput _ _ p
    · cases failed

theorem nameScripts_blames {inputs : List Path} (failed : nameScripts files inputs = .error e) :
    e.BlamesCall := by
  obtain ⟨claimed, p, refused⟩ := exists_error_of_foldlM failed
  exact claim_blames refused

theorem declarationsName_blames {number : Nat} (failed : declarationsName files number p = .error e) :
    e.BlamesCall := by
  unfold declarationsName at failed
  split at failed
  · split at failed
    · split at failed
      · cases failed
      · cases failed
        exact .notFound p
    · cases failed
      exact .invalidDefinition p
  · cases failed
    exact .invalidDefinition p

theorem nameDeclarations_blames {number : Nat} {definitions : List Path}
    (failed : nameDeclarations files number definitions = .error e) : e.BlamesCall := by
  induction definitions generalizing number with
  | nil => cases failed
  | cons p others ih =>
    unfold nameDeclarations at failed
    split at failed
    · next refused =>
      cases failed
      exact declarationsName_blames refused
    · split at failed
      · next refused =>
        cases failed
        exact ih refused
      · cases failed

theorem declarationFiles_blames {definitions : List Path}
    (failed : declarationFiles files definitions = .error e) : e.BlamesCall := by
  unfold declarationFiles at failed
  split at failed
  · cases failed
  · exact nameDeclarations_blames failed

end StagedFile

namespace Workspace

variable {files : Files} {scratch : Except FileError Path} {inputs definitions : List Path}
  {options : CompilerOptions} {e : CheckError}

theorem plan_blames (failed : plan files inputs definitions = .error e) : e.BlamesCall := by
  unfold plan at failed
  split at failed
  · cases failed
    exact .missingInput
  · split at failed
    · next refused =>
      cases failed
      exact StagedFile.nameScripts_blames refused
    · split at failed
      · next refused =>
        cases failed
        exact StagedFile.declarationFiles_blames refused
      · cases failed

theorem copy_error {d : Directory} {staged : StagedFile} (failed : copy files d staged = .error e) :
    ∃ cause, e = .io cause := by
  unfold copy at failed
  split at failed
  · cases failed
    exact ⟨_, rfl⟩
  · split at failed
    · cases failed
      exact ⟨_, rfl⟩
    · cases failed

theorem fill_error {d : Directory} {staged : List StagedFile}
    (failed : fill files d staged options = .error e) : ∃ cause, e = .io cause := by
  unfold fill at failed
  split at failed
  · next refused =>
    cases failed
    obtain ⟨held, one, uncopied⟩ := exists_error_of_foldlM refused
    exact copy_error uncopied
  · cases failed

-- Whoever called the tool is to blame exactly where the plan fails, before anything is read.
theorem stage_error (failed : stage files scratch inputs definitions options = .error e) :
    (plan files inputs definitions = .error e ∧ e.BlamesCall) ∨ ∃ cause, e = .io cause := by
  unfold stage at failed
  split at failed
  · next refused =>
    cases failed
    exact .inl ⟨refused, plan_blames refused⟩
  · split at failed
    · cases failed
      exact .inr ⟨_, rfl⟩
    · dsimp only at failed
      split at failed
      · next unfilled =>
        cases failed
        exact .inr (fill_error unfilled)
      · cases failed

end Workspace

end WatchfaceCheck
