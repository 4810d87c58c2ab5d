import WatchfaceCheck.FileTree
import WatchfaceCheck.Proofs.Staging.Names
namespace WatchfaceCheck

open Text

-- A member of a list without repeated names has a last place, after which its name is free.
theorem split_of_nodup {α β : Type} {f : α → β} {list : List α} {x : α}
    (distinct : (list.map f).Nodup) (listed : x ∈ list) :
    ∃ before after, list = before ++ x :: after ∧ f x ∉ after.map f := by
  obtain ⟨before, after, rfl⟩ := List.append_of_mem listed
  refine ⟨before, after, rfl, ?_⟩
  rw [List.map_append, List.map_cons, List.nodup_append] at distinct
  exact (List.nodup_cons.mp distinct.2.1).1

theorem ok_of_map {ε α β : Type} {f : α → β} {result : Except ε α} {b : β}
    (mapped : result.map f = .ok b) : ∃ a, result = .ok a ∧ f a = b := by
  cases result with
  | error e => cases mapped
  | ok a => exact ⟨a, rfl, Except.ok.inj mapped⟩

theorem StagedSource.script_stored {files : Files} {p : Path} {file : StoredFile}
    (read : (StagedSource.script p).stored files = .ok file) :
    ∃ text, files.readText p = .ok text ∧ file = { content := bytesOf (TypeComment.annotate text) } := by
  unfold stored at read
  cases texted : files.readText p with
  | error e => simp [texted] at read
  | ok text =>
    simp only [texted, Except.ok.injEq] at read
    exact ⟨text, rfl, read.symm⟩

namespace Workspace

variable {files : Files} {inputs definitions : List Path} {options : CompilerOptions}
  {scratch : Except FileError Path} {w : Workspace}

theorem plan_ok {scripts : List (String × Path)} {declarations : List StagedFile}
    (planned : plan files inputs definitions = .ok (scripts, declarations)) :
    inputs ≠ [] ∧ StagedFile.Claims files inputs scripts
      ∧ declarations = StagedFile.declared definitions := by
  unfold plan at planned
  split at planned
  · cases planned
  · next given =>
    cases named : StagedFile.nameScripts files inputs with
    | error e => simp [named] at planned
    | ok claimed =>
      cases chosen : StagedFile.declarationFiles files definitions with
      | error e => simp [named, chosen] at planned
      | ok found =>
        simp only [named, chosen, Except.ok.injEq, Prod.mk.injEq] at planned
        obtain ⟨rfl, rfl⟩ := planned
        refine ⟨?_, StagedFile.nameScripts_claims named, StagedFile.declarationFiles_ok chosen⟩
        intro none
        exact given (by simp [none])

structure Built (files : Files) (scratch : Except FileError Path) (inputs definitions : List Path)
    (options : CompilerOptions) (w : Workspace) : Prop where
  given : inputs ≠ []
  distinct : (inputs.map StagedFile.checkerName).Nodup
  present : ∀ p ∈ inputs, files.isFile p = true
  listed : w.files = inputs.map StagedFile.scriptAt ++ StagedFile.declared definitions
  filled : ∃ path, scratch = .ok path ∧ fill files ⟨path, .empty, []⟩ w.files options = .ok w.directory
  names : w.names = Dictionary.ofList (inputs.map fun p => (StagedFile.checkerName p, p.text))

theorem stage_built (staged : stage files scratch inputs definitions options = .ok w) :
    Built files scratch inputs definitions options w := by
  unfold stage at staged
  cases planned : plan files inputs definitions with
  | error e => simp [planned] at staged
  | ok both =>
    obtain ⟨scripts, declarations⟩ := both
    obtain ⟨given, claims, rfl⟩ := plan_ok planned
    cases allotted : scratch with
    | error e => simp [planned, allotted] at staged
    | ok path =>
      have scriptsAt : scripts.map StagedFile.script = inputs.map StagedFile.scriptAt := by
        rw [claims.names]
        exact StagedFile.map_script_claims inputs
      have namesAt : scripts.map (fun named => (named.1, named.2.text))
          = inputs.map fun p => (StagedFile.checkerName p, p.text) := by
        rw [claims.names]
        exact StagedFile.map_text_claims inputs
      simp only [planned, allotted, scriptsAt, namesAt] at staged
      cases full : fill files ⟨path, .empty, []⟩
          (inputs.map StagedFile.scriptAt ++ StagedFile.declared definitions) options with
      | error e => simp [full] at staged
      | ok directory =>
        simp only [full, Except.ok.injEq] at staged
        subst staged
        exact ⟨given, claims.distinct, claims.present, rfl, ⟨path, rfl, full⟩, rfl⟩

theorem copy_ok {directory next : Directory} {staged : StagedFile}
    (copied : copy files directory staged = .ok next) :
    ∃ file, staged.source.stored files = .ok file
      ∧ next.files = directory.files.insert staged.name file := by
  unfold copy at copied
  cases read : staged.source.stored files with
  | error e => simp [read] at copied
  | ok file =>
    cases put : directory.put staged.name file with
    | error e => simp [read, put] at copied
    | ok filled =>
      simp only [read, put, Except.ok.injEq] at copied
      subst copied
      unfold Directory.put at put
      split at put
      · cases put
      · cases put
        exact ⟨file, rfl, rfl⟩

theorem copies_frame {staged : List StagedFile} {directory result : Directory} {name : String}
    (copied : staged.foldlM (copy files) directory = .ok result)
    (absent : name ∉ staged.map StagedFile.name) :
    result.files.find? name = directory.files.find? name := by
  induction staged generalizing directory with
  | nil =>
    cases copied
    rfl
  | cons first rest ih =>
    obtain ⟨next, one, others⟩ := foldlM_cons_ok copied
    obtain ⟨file, _, put⟩ := copy_ok one
    rw [List.map_cons, List.mem_cons, not_or] at absent
    rw [ih others absent.2, put, Dictionary.find?_insert, if_neg absent.1]

theorem copies_last {before after : List StagedFile} {staged : StagedFile}
    {directory result : Directory}
    (copied : (before ++ staged :: after).foldlM (copy files) directory = .ok result)
    (last : staged.name ∉ after.map StagedFile.name) :
    ∃ file, staged.source.stored files = .ok file
      ∧ result.files.find? staged.name = some file := by
  induction before generalizing directory with
  | nil =>
    obtain ⟨next, one, others⟩ := foldlM_cons_ok copied
    obtain ⟨file, read, put⟩ := copy_ok one
    refine ⟨file, read, ?_⟩
    rw [copies_frame others last, put, Dictionary.find?_insert, if_pos rfl]
  | cons first rest ih =>
    obtain ⟨next, _, others⟩ := foldlM_cons_ok copied
    exact ih others

theorem fill_ok {staged : List StagedFile} {directory result : Directory}
    (full : fill files directory staged options = .ok result) :
    ∃ copied, staged.foldlM (copy files) directory = .ok copied
      ∧ result = copied.write configurationName
        (bytesOf (configuration options (staged.map StagedFile.name)).pretty) := by
  unfold fill at full
  cases copied : staged.foldlM (copy files) directory with
  | error e => simp [copied] at full
  | ok filled =>
    simp only [copied, Except.ok.injEq] at full
    exact ⟨filled, rfl, full.symm⟩

theorem read?_write_of_ne {directory : Directory} {name other : String} {content : Bytes}
    (apart : name ≠ other) : (directory.write other content).read? name = directory.read? name := by
  unfold Directory.read? Directory.write
  rw [Dictionary.find?_insert, if_neg apart]

theorem read?_last (built : Built files scratch inputs definitions options w)
    {before after : List StagedFile} {staged : StagedFile}
    (listed : w.files = before ++ staged :: after)
    (last : staged.name ∉ after.map StagedFile.name) (free : staged.name ≠ configurationName) :
    ∃ file, staged.source.stored files = .ok file
      ∧ w.directory.read? staged.name = some file.content := by
  obtain ⟨path, _, full⟩ := built.filled
  obtain ⟨copied, ran, written⟩ := fill_ok full
  rw [listed] at ran
  obtain ⟨file, read, found⟩ := copies_last ran last
  refine ⟨file, read, ?_⟩
  rw [written, read?_write_of_ne free]
  unfold Directory.read?
  rw [found]
  rfl

theorem fileNames_eq (built : Built files scratch inputs definitions options w) :
    w.fileNames = inputs.map StagedFile.checkerName
      ++ (StagedFile.declared definitions).map StagedFile.name := by
  unfold fileNames
  rw [built.listed, List.map_append, List.map_map]
  rfl

def Apart (inputs definitions : List Path) : Prop :=
  ∀ p ∈ inputs, ∀ one ∈ StagedFile.declared definitions, StagedFile.checkerName p ≠ one.name

theorem nodup_fileNames_iff (built : Built files scratch inputs definitions options w) :
    w.fileNames.Nodup ↔ Apart inputs definitions := by
  rw [fileNames_eq built, List.nodup_append]
  constructor
  · rintro ⟨_, _, apart⟩ p given one staged
    exact apart _ (List.mem_map_of_mem given) _ (List.mem_map_of_mem staged)
  · intro apart
    refine ⟨built.distinct, StagedFile.nodup_declared definitions, ?_⟩
    intro name script other declaration
    obtain ⟨p, given, rfl⟩ := List.mem_map.mp script
    obtain ⟨one, staged, rfl⟩ := List.mem_map.mp declaration
    exact apart p given one staged

theorem script_held (built : Built files scratch inputs definitions options w) {p : Path}
    (given : p ∈ inputs)
    (apart : ∀ one ∈ StagedFile.declared definitions, StagedFile.checkerName p ≠ one.name) :
    ∃ text, files.readText p = .ok text ∧ w.directory.read? (StagedFile.checkerName p)
      = some (bytesOf (TypeComment.annotate text)) := by
  obtain ⟨before, after, split, later⟩ := split_of_nodup built.distinct given
  have listed : w.files = before.map StagedFile.scriptAt ++ StagedFile.scriptAt p
      :: (after.map StagedFile.scriptAt ++ StagedFile.declared definitions) := by
    rw [built.listed, split, List.map_append, List.map_cons, List.append_assoc, List.cons_append]
  have last : (StagedFile.scriptAt p).name
      ∉ (after.map StagedFile.scriptAt ++ StagedFile.declared definitions).map StagedFile.name := by
    rw [List.map_append, List.mem_append, List.map_map]
    rintro (script | declaration)
    · exact later script
    · obtain ⟨one, staged, same⟩ := List.mem_map.mp declaration
      exact apart one staged same.symm
  obtain ⟨file, read, held⟩ :=
    read?_last built listed last (StagedFile.checkerName_ne_configuration p)
  obtain ⟨text, texted, rfl⟩ := StagedSource.script_stored read
  exact ⟨text, texted, held⟩

theorem declaration_held (built : Built files scratch inputs definitions options w)
    {one : StagedFile} (staged : one ∈ StagedFile.declared definitions) :
    ∃ file, one.source.stored files = .ok file
      ∧ w.directory.read? one.name = some file.content := by
  obtain ⟨before, after, split, later⟩ :=
    split_of_nodup (StagedFile.nodup_declared definitions) staged
  have listed : w.files = inputs.map StagedFile.scriptAt ++ before ++ one :: after := by
    rw [built.listed, split, List.append_assoc]
  exact read?_last built listed later (StagedFile.declared_ne_configuration staged)

-- No script is lost: every file has a name of its own, and each script stands under its own.
structure ScriptsKept (files : Files) (inputs : List Path) (w : Workspace) : Prop where
  distinct : w.fileNames.Nodup
  held : ∀ p ∈ inputs, ∃ text, files.readText p = .ok text
    ∧ w.directory.read? (StagedFile.checkerName p) = some (bytesOf (TypeComment.annotate text))

structure Accounted (files : Files) (inputs definitions : List Path) (w : Workspace) : Prop where
  names : w.fileNames = inputs.map StagedFile.checkerName
    ++ (StagedFile.declared definitions).map StagedFile.name
  scripts : (inputs.map StagedFile.checkerName).Nodup
  declarations : ((StagedFile.declared definitions).map StagedFile.name).Nodup
  kept_iff : ScriptsKept files inputs w ↔ Apart inputs definitions
  held : ∀ p ∈ inputs,
    (∀ one ∈ StagedFile.declared definitions, StagedFile.checkerName p ≠ one.name) →
      ∃ text, files.readText p = .ok text ∧ w.directory.read? (StagedFile.checkerName p)
        = some (bytesOf (TypeComment.annotate text))
  lost : ∀ p ∈ inputs, ∀ one ∈ StagedFile.declared definitions,
    StagedFile.checkerName p = one.name → ∃ file, one.source.stored files = .ok file
      ∧ w.directory.read? (StagedFile.checkerName p) = some file.content

theorem scripts_kept_iff_apart (staged : stage files scratch inputs definitions options = .ok w) :
    Accounted files inputs definitions w := by
  have built := stage_built staged
  refine ⟨fileNames_eq built, built.distinct, StagedFile.nodup_declared definitions, ?_, ?_, ?_⟩
  · constructor
    · intro kept
      exact (nodup_fileNames_iff built).mp kept.distinct
    · intro apart
      refine ⟨(nodup_fileNames_iff built).mpr apart, ?_⟩
      intro p given
      exact script_held built given (apart p given)
  · intro p given
    exact script_held built given
  -- The declarations are copied after the scripts, so theirs is the content that stays.
  · intro p given one declared same
    rw [same]
    exact declaration_held built declared

-- A script that is named as the first declaration file will be, beside one that is not.
def clashing : Files :=
  (((FileTree.empty.addFile ["face.js".toList] { content := bytesOf "var y/*: T */;" }).addFile
    ["0_api.d.js".toList] { content := bytesOf "var x = 1;" }).addFile
    ["api.d.ts".toList] { content := bytesOf "declare var z: number;" }).files []

theorem clashing_scripts_accounted : ∃ w, stage clashing (.ok ⟨"/tmp/rocky-lint-1"⟩)
      [⟨"face.js"⟩, ⟨"0_api.d.js"⟩] [⟨"api.d.ts"⟩] {} = .ok w
    ∧ Accounted clashing [⟨"face.js"⟩, ⟨"0_api.d.js"⟩] [⟨"api.d.ts"⟩] w := by
  have succeeds : (stage clashing (.ok ⟨"/tmp/rocky-lint-1"⟩)
      [⟨"face.js"⟩, ⟨"0_api.d.js"⟩] [⟨"api.d.ts"⟩] {}).isOk = true := by decide +kernel
  cases staged : stage clashing (.ok ⟨"/tmp/rocky-lint-1"⟩)
      [⟨"face.js"⟩, ⟨"0_api.d.js"⟩] [⟨"api.d.ts"⟩] {} with
  | error e =>
    rw [staged] at succeeds
    cases succeeds
  | ok w => exact ⟨w, rfl, scripts_kept_iff_apart staged⟩

theorem script_lost_to_declarations : ∃ w,
    stage clashing (.ok ⟨"/tmp/rocky-lint-1"⟩) [⟨"0_api.d.js"⟩] [⟨"api.d.ts"⟩] {} = .ok w
      ∧ w.fileNames = ["0_api.d.ts", "0_api.d.ts"]
      ∧ w.directory.read? "0_api.d.ts" = some (bytesOf "declare var z: number;")
      ∧ ¬ ScriptsKept clashing [⟨"0_api.d.js"⟩] w := by
  have evaluated : (stage clashing (.ok ⟨"/tmp/rocky-lint-1"⟩) [⟨"0_api.d.js"⟩]
      [⟨"api.d.ts"⟩] {}).map (fun w => (w.fileNames, w.directory.read? "0_api.d.ts"))
        = .ok (["0_api.d.ts", "0_api.d.ts"], some (bytesOf "declare var z: number;")) := by
    decide +kernel
  cases staged : stage clashing (.ok ⟨"/tmp/rocky-lint-1"⟩) [⟨"0_api.d.js"⟩]
      [⟨"api.d.ts"⟩] {} with
  | error e =>
    rw [staged] at evaluated
    cases evaluated
  | ok w =>
    rw [staged] at evaluated
    obtain ⟨names, held⟩ := Prod.mk.inj (Except.ok.inj evaluated)
    refine ⟨w, rfl, names, held, ?_⟩
    intro kept
    have distinct := kept.distinct
    rw [names] at distinct
    revert distinct
    decide

end Workspace

end WatchfaceCheck
