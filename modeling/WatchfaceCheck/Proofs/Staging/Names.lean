import Mathlib.Data.List.Nodup
import WatchfaceCheck.Workspace
namespace WatchfaceCheck

theorem foldlM_cons_ok {α β ε : Type} {step : β → α → Except ε β} {start result : β} {a : α}
    {rest : List α} (ran : (a :: rest).foldlM step start = .ok result) :
    ∃ next, step start a = .ok next ∧ rest.foldlM step next = .ok result := by
  rw [List.foldlM_cons] at ran
  cases first : step start a with
  | error e => rw [first] at ran; cases ran
  | ok next => rw [first] at ran; exact ⟨next, rfl, ran⟩

theorem nodup_map_snoc {α β : Type} {f : α → β} {list : List α} {x : α} :
    ((list ++ [x]).map f).Nodup ↔ (list.map f).Nodup ∧ f x ∉ list.map f := by
  rw [List.map_append, List.nodup_append_comm, List.map_singleton, List.singleton_append,
    List.nodup_cons, and_comm]

namespace StagedFile

def checkerName (p : Path) : String := String.ofList (p.stem?.getD [] ++ ['.', 't', 's'])

def baseName (p : Path) : String := String.ofList (p.fileName?.getD [])

def scriptAt (p : Path) : StagedFile := ⟨checkerName p, .script p⟩

def declarationsAt (place : Path × Nat) : StagedFile :=
  ⟨numberedName place.2 (baseName place.1), .declarations place.1⟩

def declared (definitions : List Path) : List StagedFile :=
  if definitions.isEmpty then [bundled] else definitions.zipIdx.map declarationsAt

theorem scriptName_ok {files : Files} {p : Path} {name : String}
    (named : scriptName files p = .ok name) : name = checkerName p ∧ files.isFile p = true := by
  unfold scriptName at named
  split at named
  · next extension stem _ stemmed =>
    split at named
    · split at named
      · next present =>
        cases named
        exact ⟨by simp [checkerName, stemmed], present⟩
      · cases named
    · cases named
  · cases named

theorem declarationsName_ok {files : Files} {number : Nat} {p : Path} {name : String}
    (named : declarationsName files number p = .ok name) :
    name = numberedName number (baseName p) ∧ files.isFile p = true := by
  unfold declarationsName at named
  split at named
  · next extension base _ based =>
    split at named
    · split at named
      · next present =>
        cases named
        exact ⟨by simp [baseName, based], present⟩
      · cases named
    · cases named
  · cases named

def claims (inputs : List Path) : List (String × Path) := inputs.map fun p => (checkerName p, p)

theorem map_script_claims (inputs : List Path) :
    (claims inputs).map script = inputs.map scriptAt := by
  rw [claims, List.map_map]
  rfl

theorem map_text_claims (inputs : List Path) :
    (claims inputs).map (fun named => (named.1, named.2.text))
      = inputs.map fun p => (checkerName p, p.text) := by
  rw [claims, List.map_map]
  rfl

structure Claims (files : Files) (inputs : List Path) (claimed : List (String × Path)) : Prop where
  names : claimed = inputs.map fun p => (checkerName p, p)
  distinct : (inputs.map checkerName).Nodup
  present : ∀ p ∈ inputs, files.isFile p = true

theorem claims_nil (files : Files) : Claims files [] [] :=
  ⟨rfl, List.nodup_nil, by simp⟩

theorem claim_ok {files : Files} {claimed next : List (String × Path)} {p : Path}
    (taken : claim files claimed p = .ok next) :
    claimed.lookup (checkerName p) = none ∧ next = claimed ++ [(checkerName p, p)]
      ∧ files.isFile p = true := by
  unfold claim at taken
  cases named : scriptName files p with
  | error e => simp [named] at taken
  | ok name =>
    obtain ⟨rfl, present⟩ := scriptName_ok named
    cases free : claimed.lookup (checkerName p) with
    | some first => simp [named, free] at taken
    | none =>
      simp only [named, free, Except.ok.injEq] at taken
      exact ⟨rfl, taken.symm, present⟩

theorem claims_step {files : Files} {inputs : List Path} {claimed next : List (String × Path)}
    {p : Path} (claims : Claims files inputs claimed) (taken : claim files claimed p = .ok next) :
    Claims files (inputs ++ [p]) next := by
  obtain ⟨free, rfl, present⟩ := claim_ok taken
  have fresh : checkerName p ∉ inputs.map checkerName := by
    intro clash
    obtain ⟨other, listed, same⟩ := List.mem_map.mp clash
    rw [claims.names, List.lookup_eq_none_iff] at free
    have apart := free (checkerName other, other) (List.mem_map_of_mem listed)
    simp [same] at apart
  refine ⟨?_, ?_, ?_⟩
  · rw [claims.names, List.map_append, List.map_singleton]
  · exact nodup_map_snoc.mpr ⟨claims.distinct, fresh⟩
  · intro q listed
    rcases List.mem_append.mp listed with earlier | last
    · exact claims.present q earlier
    · rw [List.mem_singleton.mp last]
      exact present

theorem claims_run {files : Files} {earlier inputs : List Path}
    {claimed scripts : List (String × Path)} (claims : Claims files earlier claimed)
    (ran : inputs.foldlM (claim files) claimed = .ok scripts) :
    Claims files (earlier ++ inputs) scripts := by
  induction inputs generalizing earlier claimed with
  | nil =>
    cases ran
    rw [List.append_nil]
    exact claims
  | cons p rest ih =>
    obtain ⟨next, taken, later⟩ := foldlM_cons_ok ran
    have result := ih (claims_step claims taken) later
    rwa [List.append_assoc] at result

theorem nameScripts_claims {files : Files} {inputs : List Path} {scripts : List (String × Path)}
    (named : nameScripts files inputs = .ok scripts) : Claims files inputs scripts :=
  claims_run (claims_nil files) named

theorem nameDeclarations_ok {files : Files} {number : Nat} {definitions : List Path}
    {named : List StagedFile} (ran : nameDeclarations files number definitions = .ok named) :
    named = (definitions.zipIdx number).map declarationsAt
      ∧ ∀ p ∈ definitions, files.isFile p = true := by
  induction definitions generalizing number named with
  | nil =>
    cases ran
    exact ⟨rfl, by simp⟩
  | cons p rest ih =>
    unfold nameDeclarations at ran
    cases first : declarationsName files number p with
    | error e => simp [first] at ran
    | ok name =>
      cases others : nameDeclarations files (number + 1) rest with
      | error e => simp [first, others] at ran
      | ok later =>
        simp only [first, others, Except.ok.injEq] at ran
        obtain ⟨rfl, present⟩ := declarationsName_ok first
        obtain ⟨rfl, presentLater⟩ := ih others
        exact ⟨ran.symm, List.forall_mem_cons.mpr ⟨present, presentLater⟩⟩

theorem declarationFiles_ok {files : Files} {definitions : List Path} {named : List StagedFile}
    (ran : declarationFiles files definitions = .ok named) : named = declared definitions := by
  unfold declarationFiles at ran
  unfold declared
  split at ran
  · next none =>
    cases ran
    rw [if_pos none]
  · next some =>
    rw [if_neg some]
    exact (nameDeclarations_ok ran).1

theorem takeWhile_digits (number : Nat) (rest : List Char) :
    (Nat.toDigits 10 number ++ '_' :: rest).takeWhile Char.isDigit = Nat.toDigits 10 number := by
  have digits : ∀ c ∈ Nat.toDigits 10 number, c.isDigit = true := fun _ listed =>
    Nat.isDigit_of_mem_toDigits (by decide) (by decide) listed
  rw [List.takeWhile_append_of_pos digits, List.takeWhile_cons_of_neg (by decide),
    List.append_nil]

theorem toList_numberedName (number : Nat) (name : String) :
    (numberedName number name).toList = Nat.toDigits 10 number ++ '_' :: name.toList := by
  simp [numberedName, Nat.toString_eq_repr, Nat.toList_repr]

theorem number_inj {i j : Nat} {a b : String} (same : numberedName i a = numberedName j b) :
    i = j := by
  have listed := congrArg (fun name => name.toList.takeWhile Char.isDigit) same
  simp only [toList_numberedName, takeWhile_digits] at listed
  rw [← Nat.ofDigitChars_ten_toDigits (n := i), listed, Nat.ofDigitChars_ten_toDigits]

theorem nodup_declarationsAt (definitions : List Path) (number : Nat) :
    (((definitions.zipIdx number).map declarationsAt).map name).Nodup := by
  have numbered : ((definitions.zipIdx number).map Prod.snd).Nodup := by
    rw [List.zipIdx_map_snd]
    exact List.nodup_range'
  unfold List.Nodup at numbered ⊢
  rw [List.pairwise_map] at numbered
  rw [List.map_map, List.pairwise_map]
  exact numbered.imp fun apart same => apart (number_inj same)

theorem nodup_declared (definitions : List Path) : ((declared definitions).map name).Nodup := by
  unfold declared
  split
  · exact List.nodup_singleton _
  · exact nodup_declarationsAt definitions 0

theorem checkerName_ne {p : Path} {other : String} (unlike : ¬ ['.', 't', 's'] <:+ other.toList) :
    checkerName p ≠ other := by
  rintro rfl
  exact unlike ⟨p.stem?.getD [], by simp [checkerName]⟩

theorem mark_mem_numberedName (number : Nat) (base : String) :
    '_' ∈ (numberedName number base).toList := by
  rw [toList_numberedName]
  simp

theorem name_of_declared {definitions : List Path} {one : StagedFile}
    (listed : one ∈ declared definitions) : ∃ number base, one.name = numberedName number base
      ∧ (base = Declarations.fileName ∨ ∃ p, base = baseName p) := by
  unfold declared at listed
  split at listed
  · rw [List.mem_singleton.mp listed]
    exact ⟨0, Declarations.fileName, rfl, .inl rfl⟩
  · obtain ⟨place, _, rfl⟩ := List.mem_map.mp listed
    exact ⟨place.2, baseName place.1, rfl, .inr ⟨place.1, rfl⟩⟩

theorem declared_ne {definitions : List Path} {one : StagedFile} {other : String}
    (listed : one ∈ declared definitions) (unmarked : '_' ∉ other.toList) : one.name ≠ other := by
  obtain ⟨number, base, named, -⟩ := name_of_declared listed
  rintro rfl
  exact unmarked (named ▸ mark_mem_numberedName number base)

theorem checkerName_ne_configuration (p : Path) :
    checkerName p ≠ Workspace.configurationName := checkerName_ne (by decide)

theorem declared_ne_configuration {definitions : List Path} {one : StagedFile}
    (listed : one ∈ declared definitions) : one.name ≠ Workspace.configurationName :=
  declared_ne listed (by decide)

end StagedFile

end WatchfaceCheck
