import Mathlib.Data.List.Induction
import WatchfaceCheck.Proofs.Course
import WatchfaceCheck.Proofs.Dictionary
import WatchfaceCheck.Proofs.Staging.Contents
namespace WatchfaceCheck

open Text

theorem exists_first {α : Type} {P : α → Prop} {list : List α} (failed : ¬ ∀ x ∈ list, P x) :
    ∃ before x after, list = before ++ x :: after ∧ (∀ y ∈ before, P y) ∧ ¬ P x := by
  induction list with
  | nil => simp at failed
  | cons x rest ih =>
    by_cases passed : P x
    · have later : ¬ ∀ y ∈ rest, P y := by
        intro others
        exact failed (List.forall_mem_cons.mpr ⟨passed, others⟩)
      obtain ⟨before, y, after, rfl, earlier, first⟩ := ih later
      exact ⟨x :: before, y, after, rfl, List.forall_mem_cons.mpr ⟨passed, earlier⟩, first⟩
    · exact ⟨[], x, rest, rfl, by simp, passed⟩

namespace Path

def EndsAsScript (p : Path) : Prop := p.extension? = some ['j', 's'] ∨ p.extension? = some ['t', 's']

def EndsAsDeclarations (p : Path) : Prop := p.extension? = some ['t', 's']

theorem exists_fileName {p : Path} {extension : Part} (ends : p.extension? = some extension) :
    ∃ name, p.fileName? = some name := by
  obtain ⟨name, named, -⟩ := Option.bind_eq_some_iff.mp ends
  exact ⟨name, named⟩

theorem exists_stem {p : Path} {extension : Part} (ends : p.extension? = some extension) :
    ∃ stem, p.stem? = some stem := by
  obtain ⟨name, named⟩ := exists_fileName ends
  refine ⟨(cut name).1, ?_⟩
  rw [stem?, named, Option.map_some]

end Path

namespace StagedFile

variable {files : Files} {before : List Path} {p : Path} {e : CheckError}

inductive ScriptFault (files : Files) (before : List Path) (p : Path) : CheckError → Prop
  | ending (other : ¬ p.EndsAsScript) : ScriptFault files before p (.invalidInput p)
  | absent (ends : p.EndsAsScript) (absent : files.isFile p = false) :
    ScriptFault files before p (.notFound p)
  | taken {first : Path} (ends : p.EndsAsScript) (present : files.isFile p = true)
      (earlier : first ∈ before) (same : checkerName first = checkerName p) :
    ScriptFault files before p (.duplicateInput (checkerName p) first p)

inductive DeclarationsFault (files : Files) (p : Path) : CheckError → Prop
  | ending (other : ¬ p.EndsAsDeclarations) : DeclarationsFault files p (.invalidDefinition p)
  | absent (ends : p.EndsAsDeclarations) (absent : files.isFile p = false) :
    DeclarationsFault files p (.notFound p)

structure ScriptsPass (files : Files) (inputs : List Path) : Prop where
  endings : ∀ p ∈ inputs, p.EndsAsScript
  present : ∀ p ∈ inputs, files.isFile p = true
  distinct : (inputs.map checkerName).Nodup

def DeclarationsPass (files : Files) (definitions : List Path) : Prop :=
  ∀ p ∈ definitions, p.EndsAsDeclarations ∧ files.isFile p = true

theorem scriptsPass_nil (files : Files) : ScriptsPass files [] :=
  ⟨by simp, by simp, List.nodup_nil⟩

theorem scriptsPass_snoc : ScriptsPass files (before ++ [p]) ↔ ScriptsPass files before
    ∧ p.EndsAsScript ∧ files.isFile p = true ∧ checkerName p ∉ before.map checkerName := by
  constructor
  · rintro ⟨endings, present, distinct⟩
    obtain ⟨endings, ends⟩ := List.forall_mem_append.mp endings
    obtain ⟨present, found⟩ := List.forall_mem_append.mp present
    obtain ⟨distinct, fresh⟩ := nodup_map_snoc.mp distinct
    exact ⟨⟨endings, present, distinct⟩, ends p (.head _), found p (.head _), fresh⟩
  · rintro ⟨⟨endings, present, distinct⟩, ends, found, fresh⟩
    refine ⟨List.forall_mem_append.mpr ⟨endings, ?_⟩, List.forall_mem_append.mpr ⟨present, ?_⟩,
      nodup_map_snoc.mpr ⟨distinct, fresh⟩⟩
    · exact List.forall_mem_singleton.mpr ends
    · exact List.forall_mem_singleton.mpr found

theorem passes_or_fault (passed : ScriptsPass files before) (p : Path) :
    ScriptsPass files (before ++ [p]) ∨ ∃ e, ScriptFault files before p e := by
  rw [scriptsPass_snoc]
  by_cases ends : p.EndsAsScript
  · by_cases present : files.isFile p = true
    · by_cases taken : checkerName p ∈ before.map checkerName
      · obtain ⟨first, earlier, same⟩ := List.mem_map.mp taken
        exact .inr ⟨_, .taken ends present earlier same⟩
      · exact .inl ⟨passed, ends, present, taken⟩
    · exact .inr ⟨_, .absent ends (Bool.eq_false_iff.mpr present)⟩
  · exact .inr ⟨_, .ending ends⟩

theorem lookup_claims (distinct : (before.map checkerName).Nodup) {name : String} {first : Path} :
    (claims before).lookup name = some first ↔ first ∈ before ∧ checkerName first = name := by
  have keys : ((claims before).map Prod.fst).Nodup := by
    rw [claims, List.map_map]
    exact distinct
  rw [Dictionary.lookup_eq_some_iff_mem keys, claims, List.mem_map]
  constructor
  · rintro ⟨q, listed, same⟩
    obtain ⟨rfl, rfl⟩ := Prod.mk.inj same
    exact ⟨listed, rfl⟩
  · rintro ⟨listed, rfl⟩
    exact ⟨first, listed, rfl⟩

theorem scriptName_ending (other : ¬ p.EndsAsScript) :
    scriptName files p = .error (.invalidInput p) := by
  unfold scriptName
  split
  · next extension stem ended _ =>
    have unlike : ¬ (extension == ['j', 's'] || extension == ['t', 's']) = true := by
      rw [Bool.or_eq_true, beq_iff_eq, beq_iff_eq]
      rintro (rfl | rfl)
      · exact other (.inl ended)
      · exact other (.inr ended)
    rw [if_neg unlike]
  · rfl

theorem scriptName_ends (ends : p.EndsAsScript) : scriptName files p
    = if files.isFile p then .ok (checkerName p) else .error (.notFound p) := by
  obtain ⟨extension, ended, like⟩ : ∃ extension, p.extension? = some extension
      ∧ (extension == ['j', 's'] || extension == ['t', 's']) = true := by
    rcases ends with script | typed
    · exact ⟨_, script, by decide⟩
    · exact ⟨_, typed, by decide⟩
  obtain ⟨stem, stemmed⟩ := Path.exists_stem ended
  unfold scriptName checkerName
  rw [ended, stemmed]
  exact if_pos like

theorem claim_fault (passed : ScriptsPass files before) (fault : ScriptFault files before p e) :
    claim files (claims before) p = .error e := by
  unfold claim
  cases fault with
  | ending other => rw [scriptName_ending other]
  | absent ends absent =>
    rw [scriptName_ends ends, absent]
    rfl
  | taken ends present earlier same =>
    have found := (lookup_claims passed.distinct).mpr ⟨earlier, same⟩
    rw [scriptName_ends ends, present, if_pos rfl]
    simp only [found]

theorem claim_passes (passed : ScriptsPass files (before ++ [p])) :
    claim files (claims before) p = .ok (claims (before ++ [p])) := by
  obtain ⟨earlier, ends, present, fresh⟩ := scriptsPass_snoc.mp passed
  have free : (claims before).lookup (checkerName p) = none := by
    rw [Option.eq_none_iff_forall_ne_some]
    intro first found
    obtain ⟨listed, same⟩ := (lookup_claims earlier.distinct).mp found
    exact fresh (same ▸ List.mem_map_of_mem listed)
  unfold claim
  rw [scriptName_ends ends, present, if_pos rfl]
  simp only [free]
  rw [claims, claims, List.map_append, List.map_singleton]

-- A run over scripts that pass, by the last of them; it ends at the first that does not.
theorem nameScripts_passes {inputs : List Path} (passed : ScriptsPass files inputs) :
    nameScripts files inputs = .ok (claims inputs) := by
  induction inputs using List.reverseRecOn with
  | nil => rfl
  | append_singleton before p ih =>
    have earlier : (before.foldlM (claim files) []) = .ok (claims before) :=
      ih (scriptsPass_snoc.mp passed).1
    rw [nameScripts, List.foldlM_append, earlier]
    change [p].foldlM (claim files) (claims before) = _
    rw [List.foldlM_cons, claim_passes passed]
    rfl

theorem nameScripts_fault {after : List Path} (passed : ScriptsPass files before)
    (fault : ScriptFault files before p e) : nameScripts files (before ++ p :: after) = .error e := by
  have earlier : (before.foldlM (claim files) []) = .ok (claims before) := nameScripts_passes passed
  rw [nameScripts, List.foldlM_append, earlier]
  change (p :: after).foldlM (claim files) (claims before) = _
  rw [List.foldlM_cons, claim_fault passed fault]
  rfl

theorem exists_script_fault {inputs : List Path} (failed : ¬ ScriptsPass files inputs) :
    ∃ before p after e, inputs = before ++ p :: after ∧ ScriptsPass files before
      ∧ ScriptFault files before p e := by
  induction inputs using List.reverseRecOn with
  | nil => exact absurd (scriptsPass_nil files) failed
  | append_singleton earlier last ih =>
    by_cases passed : ScriptsPass files earlier
    · rcases passes_or_fault passed last with all | ⟨e, fault⟩
      · exact absurd all failed
      · exact ⟨earlier, last, [], e, rfl, passed, fault⟩
    · obtain ⟨before, p, after, e, rfl, passed, fault⟩ := ih passed
      exact ⟨before, p, after ++ [last], e, by simp, passed, fault⟩

theorem declarationsName_fault {number : Nat} (fault : DeclarationsFault files p e) :
    declarationsName files number p = .error e := by
  unfold declarationsName
  cases fault with
  | ending other =>
    split
    · next extension name ended _ =>
      have unlike : ¬ (extension == ['t', 's']) = true := by
        rw [beq_iff_eq]
        rintro rfl
        exact other ended
      rw [if_neg unlike]
    · rfl
  | absent ends absent =>
    obtain ⟨name, named⟩ := Path.exists_fileName ends
    have ended : p.extension? = some ['t', 's'] := ends
    simp [ended, named, absent]

theorem declarationsName_passes {number : Nat} (ends : p.EndsAsDeclarations)
    (present : files.isFile p = true) :
    declarationsName files number p = .ok (numberedName number (baseName p)) := by
  obtain ⟨name, named⟩ := Path.exists_fileName ends
  have ended : p.extension? = some ['t', 's'] := ends
  unfold declarationsName baseName
  rw [ended, named, present]
  rfl

theorem nameDeclarations_passes {definitions : List Path}
    (passed : DeclarationsPass files definitions) (number : Nat) :
    nameDeclarations files number definitions
      = .ok ((definitions.zipIdx number).map declarationsAt) := by
  induction definitions generalizing number with
  | nil => rfl
  | cons p others ih =>
    obtain ⟨⟨ends, present⟩, later⟩ := List.forall_mem_cons.mp passed
    unfold nameDeclarations
    simp only [declarationsName_passes ends present, ih later]
    rfl

theorem nameDeclarations_fault {after : List Path} (passed : DeclarationsPass files before)
    (fault : DeclarationsFault files p e) (number : Nat) :
    nameDeclarations files number (before ++ p :: after) = .error e := by
  induction before generalizing number with
  | nil =>
    rw [List.nil_append]
    unfold nameDeclarations
    rw [declarationsName_fault fault]
  | cons q others ih =>
    obtain ⟨⟨ends, present⟩, later⟩ := List.forall_mem_cons.mp passed
    rw [List.cons_append]
    unfold nameDeclarations
    simp only [declarationsName_passes ends present, ih later]

theorem declarationFiles_passes {definitions : List Path}
    (passed : DeclarationsPass files definitions) :
    declarationFiles files definitions = .ok (declared definitions) := by
  unfold declarationFiles declared
  split
  · rfl
  · exact nameDeclarations_passes passed 0

theorem exists_declarations_fault {definitions : List Path}
    (failed : ¬ DeclarationsPass files definitions) :
    ∃ before p after e, definitions = before ++ p :: after ∧ DeclarationsPass files before
      ∧ DeclarationsFault files p e := by
  obtain ⟨before, p, after, split, passed, first⟩ := exists_first failed
  by_cases ends : p.EndsAsDeclarations
  · have absent : files.isFile p = false := by
      rw [Bool.eq_false_iff]
      intro present
      exact first ⟨ends, present⟩
    exact ⟨before, p, after, _, split, passed, .absent ends absent⟩
  · exact ⟨before, p, after, _, split, passed, .ending ends⟩

inductive CopyFault (files : Files) : StagedFile → FileError → Prop
  | unread {name : String} {p : Path} {cause : FileError} (unread : files.read p = .error cause) :
    CopyFault files ⟨name, .script p⟩ cause
  | notText {name : String} {p : Path} {content : Bytes} (read : files.read p = .ok content)
      (garbled : whole? (Utf8.symbols content) = none) :
    CopyFault files ⟨name, .script p⟩ .notText
  | uncopied {name : String} {p : Path} {cause : FileError} (unread : files.file p = .error cause) :
    CopyFault files ⟨name, .declarations p⟩ cause
  | tooLong {one : StagedFile} {file : StoredFile} (read : one.source.stored files = .ok file)
      (long : Path.isTooLongPart one.name.toList = true) : CopyFault files one .nameTooLong

def Copies (files : Files) (one : StagedFile) : Prop := ∀ cause, ¬ CopyFault files one cause

theorem copyFault_unstored {one : StagedFile} {cause : FileError}
    (unread : one.source.stored files = .error cause) : CopyFault files one cause := by
  obtain ⟨name, source⟩ := one
  cases source with
  | script p =>
    simp only [StagedSource.stored, Files.readText] at unread
    cases read : files.read p with
    | error e =>
      simp only [read, Except.error.injEq] at unread
      exact unread ▸ .unread read
    | ok content =>
      cases garbled : whole? (Utf8.symbols content) with
      | none =>
        simp only [read, garbled, Except.error.injEq] at unread
        exact unread ▸ .notText read garbled
      | some text => simp [read, garbled] at unread
  | declarations p => exact .uncopied unread
  | bundled => cases unread

end StagedFile

namespace Workspace

open StagedFile

variable {files : Files} {inputs definitions : List Path} {options : CompilerOptions}
  {scratch : Except FileError Path} {e : CheckError}

theorem copy_fault {directory : Directory} {one : StagedFile} {cause : FileError}
    (fault : CopyFault files one cause) : copy files directory one = .error (.io cause) := by
  cases fault with
  | unread unread => simp [copy, StagedSource.stored, Files.readText, unread]
  | notText read garbled => simp [copy, StagedSource.stored, Files.readText, read, garbled]
  | uncopied unread => simp [copy, StagedSource.stored, unread]
  | tooLong read long => simp [copy, read, Directory.put, long]

theorem copy_copies {one : StagedFile} (copies : Copies files one) (directory : Directory) :
    ∃ next, copy files directory one = .ok next := by
  unfold copy
  cases read : one.source.stored files with
  | error cause => exact absurd (copyFault_unstored read) (copies cause)
  | ok file =>
    have short : ¬ Path.isTooLongPart one.name.toList = true := by
      intro long
      exact copies .nameTooLong (.tooLong read long)
    simp only [Directory.put, if_neg short]
    exact ⟨_, rfl⟩

theorem copies_pass {list : List StagedFile} (copies : ∀ one ∈ list, Copies files one)
    (directory : Directory) : ∃ filled, list.foldlM (copy files) directory = .ok filled := by
  induction list generalizing directory with
  | nil => exact ⟨directory, rfl⟩
  | cons one rest ih =>
    obtain ⟨first, later⟩ := List.forall_mem_cons.mp copies
    obtain ⟨next, copied⟩ := copy_copies first directory
    obtain ⟨filled, ran⟩ := ih later next
    refine ⟨filled, ?_⟩
    rw [List.foldlM_cons, copied]
    exact ran

theorem copies_fault {before after : List StagedFile} {one : StagedFile} {cause : FileError}
    (copies : ∀ other ∈ before, Copies files other) (fault : CopyFault files one cause)
    (directory : Directory) :
    (before ++ one :: after).foldlM (copy files) directory = .error (.io cause) := by
  obtain ⟨filled, ran⟩ := copies_pass copies directory
  rw [List.foldlM_append, ran]
  change (one :: after).foldlM (copy files) filled = _
  rw [List.foldlM_cons, copy_fault fault]
  rfl

structure Passes (files : Files) (inputs definitions : List Path) : Prop where
  given : inputs ≠ []
  scripts : ScriptsPass files inputs
  declarations : DeclarationsPass files definitions

-- The first check that fails, the scripts being examined before the declaration files.
inductive FirstFault (files : Files) (inputs definitions : List Path) : CheckError → Prop
  | missing (missing : inputs = []) : FirstFault files inputs definitions .missingInput
  | script {before after : List Path} {p : Path} {e : CheckError}
      (split : inputs = before ++ p :: after) (passed : ScriptsPass files before)
      (fault : ScriptFault files before p e) : FirstFault files inputs definitions e
  | declarations {before after : List Path} {p : Path} {e : CheckError} (given : inputs ≠ [])
      (scripts : ScriptsPass files inputs) (split : definitions = before ++ p :: after)
      (passed : DeclarationsPass files before) (fault : DeclarationsFault files p e) :
    FirstFault files inputs definitions e

theorem plan_fault (fault : FirstFault files inputs definitions e) :
    plan files inputs definitions = .error e := by
  unfold plan
  cases fault with
  | missing missing => simp [missing]
  | script split passed fault => simp [split, nameScripts_fault passed fault]
  | declarations given scripts split passed fault =>
    have chosen : declarationFiles files definitions = .error e := by
      rw [split]
      simp [declarationFiles, nameDeclarations_fault passed fault]
    simp [given, nameScripts_passes scripts, chosen]

theorem plan_passes (passes : Passes files inputs definitions) :
    plan files inputs definitions = .ok (claims inputs, declared definitions) := by
  simp [plan, passes.given, nameScripts_passes passes.scripts,
    declarationFiles_passes passes.declarations]

theorem exists_fault_iff :
    (∃ e, FirstFault files inputs definitions e) ↔ ¬ Passes files inputs definitions := by
  constructor
  · rintro ⟨e, fault⟩ passes
    have refused := plan_fault fault
    rw [plan_passes passes] at refused
    cases refused
  · intro failed
    by_cases given : inputs = []
    · exact ⟨_, .missing given⟩
    by_cases scripts : ScriptsPass files inputs
    · have unfit : ¬ DeclarationsPass files definitions := by
        intro declarations
        exact failed ⟨given, scripts, declarations⟩
      obtain ⟨before, p, after, e, split, passed, fault⟩ := exists_declarations_fault unfit
      exact ⟨e, .declarations given scripts split passed fault⟩
    · obtain ⟨before, p, after, e, split, passed, fault⟩ := exists_script_fault scripts
      exact ⟨e, .script split passed fault⟩

theorem stage_unplanned (refused : plan files inputs definitions = .error e) :
    stage files scratch inputs definitions options = .error e := by
  unfold stage
  rw [refused]

theorem passes_of_staged {w : Workspace}
    (staged : stage files scratch inputs definitions options = .ok w) :
    Passes files inputs definitions := by
  by_contra failed
  obtain ⟨e, fault⟩ := exists_fault_iff.mpr failed
  rw [stage_unplanned (plan_fault fault)] at staged
  cases staged

def planned (inputs definitions : List Path) : List StagedFile :=
  inputs.map scriptAt ++ declared definitions

theorem stage_planned (passes : Passes files inputs definitions) (path : Path) :
    stage files (.ok path) inputs definitions options
      = (fill files ⟨path, .empty, []⟩ (planned inputs definitions) options).map fun directory =>
        ⟨directory, planned inputs definitions, Dictionary.ofList (inputs.map fun p =>
          (checkerName p, p.text))⟩ := by
  unfold stage planned
  simp only [plan_passes passes, map_script_claims, map_text_claims]
  split <;> simp [*, Except.map]

-- What happens with paths of which one does not pass: this is told, and nothing is done.
structure RefusedFor (files : Files) (inputs definitions : List Path) (e : CheckError) : Prop where
  usage : e.isUsage = true
  unstaged : ∀ scratch options, stage files scratch inputs definitions options = .error e
  untouched : ∀ (host : Host) (settings : Settings) (elapsed : String),
    host.files = files → settings.definitions = definitions →
      Run.ofSettings host elapsed inputs settings = (host, Run.failed settings.palette e)

structure Holds (inputs definitions : List Path) (w : Workspace) : Prop where
  files : w.files = inputs.map scriptAt ++ declared definitions
  names : w.names.entries.Perm (inputs.map fun p => (checkerName p, p.text))

-- What happens with paths that pass: whatever still fails is not the fault of the call.
structure AdmittedFor (files : Files) (inputs definitions : List Path) : Prop where
  unallotted : ∀ cause options,
    stage files (.error cause) inputs definitions options = .error (.io cause)
  uncopied : ∀ path options before one after cause,
    planned inputs definitions = before ++ one :: after → (∀ other ∈ before, Copies files other) →
      CopyFault files one cause →
        stage files (.ok path) inputs definitions options = .error (.io cause)
  copied : ∀ path options, (∀ one ∈ planned inputs definitions, Copies files one) →
    ∃ w, stage files (.ok path) inputs definitions options = .ok w ∧ Holds inputs definitions w

theorem refusedFor_fault (fault : FirstFault files inputs definitions e) :
    RefusedFor files inputs definitions e := by
  have refused := plan_fault fault
  refine ⟨e.isUsage_iff.mpr (plan_blames refused), fun _ _ => stage_unplanned refused, ?_⟩
  rintro host settings elapsed rfl rfl
  exact Run.ofSettings_unplanned elapsed refused

theorem holds_of_staged {w : Workspace}
    (staged : stage files scratch inputs definitions options = .ok w) :
    Holds inputs definitions w := by
  have built := stage_built staged
  refine ⟨built.listed, ?_⟩
  rw [built.names]
  refine Dictionary.entries_ofList ?_
  rw [List.map_map]
  exact built.distinct

theorem admittedFor_passes (passes : Passes files inputs definitions) :
    AdmittedFor files inputs definitions := by
  refine ⟨?_, ?_, ?_⟩
  · intro cause options
    simp [stage, plan_passes passes]
  · intro path options before one after cause split copies fault
    rw [stage_planned passes, split, fill, copies_fault copies fault]
    rfl
  · intro path options copies
    obtain ⟨filled, ran⟩ := copies_pass copies ⟨path, .empty, []⟩
    have staged : stage files (.ok path) inputs definitions options = _ :=
      stage_planned passes path
    rw [fill, ran] at staged
    exact ⟨_, staged, holds_of_staged staged⟩

-- A path that does not pass is the only thing that is blamed on the call, and it is found first.
structure Examined (files : Files) (inputs definitions : List Path) : Prop where
  fault_iff : (∃ e, FirstFault files inputs definitions e) ↔ ¬ Passes files inputs definitions
  refused : ∀ e, FirstFault files inputs definitions e → RefusedFor files inputs definitions e
  admitted : Passes files inputs definitions → AdmittedFor files inputs definitions
  usage_iff : ∀ scratch options,
    (∃ e, e.isUsage = true ∧ stage files scratch inputs definitions options = .error e)
      ↔ ¬ Passes files inputs definitions

-- A script that is given twice is reported before a declaration file that is not there.
example : plan ((FileTree.empty.addFile ["face.js".toList] { content := [] }).files [])
    [⟨"face.js"⟩, ⟨"face.js"⟩] [⟨"gone.d.ts"⟩]
      = .error (.duplicateInput "face.ts" ⟨"face.js"⟩ ⟨"face.js"⟩) := by decide +kernel

end Workspace

end WatchfaceCheck
