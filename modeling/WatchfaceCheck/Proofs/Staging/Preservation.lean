import WatchfaceCheck.Proofs.Paths
import WatchfaceCheck.Proofs.Staging.Configuration
import WatchfaceCheck.Proofs.Staging.Examination
namespace WatchfaceCheck

open Text

namespace StagedFile

theorem isStep_checkerName (p : Path) : Path.IsStep (checkerName p) := by
  have flat : '/' ∉ p.stem?.getD [] := by
    cases stemmed : p.stem? with
    | none => simp
    | some stem => exact Path.slash_not_mem_stem stemmed
  refine Path.isStep_of_mem ?_ (c := 't') ?_ (by decide)
  · simp [checkerName, flat]
  · simp [checkerName]

theorem isStep_numberedName (number : Nat) {name : String} (flat : '/' ∉ name.toList) :
    Path.IsStep (numberedName number name) := by
  have digits : '/' ∉ Nat.toDigits 10 number := by
    intro listed
    have digit : '/'.isDigit = true :=
      Nat.isDigit_of_mem_toDigits (by decide) (by decide) listed
    revert digit
    decide
  refine Path.isStep_of_mem ?_ (c := '_') ?_ (by decide)
  · simp [toList_numberedName, digits, flat]
  · simp [toList_numberedName]

theorem flat_baseName (p : Path) : '/' ∉ (baseName p).toList := by
  cases named : p.fileName? with
  | none => simp [baseName, named]
  | some name => simpa [baseName, named] using Path.slash_not_mem_fileName named

theorem isStep_declared {definitions : List Path} {one : StagedFile}
    (listed : one ∈ declared definitions) : Path.IsStep one.name := by
  obtain ⟨number, base, named, bundled | ⟨p, given⟩⟩ := name_of_declared listed
  · rw [named, bundled]
    exact isStep_numberedName number (by decide)
  · rw [named, given]
    exact isStep_numberedName number (flat_baseName p)

end StagedFile

namespace Bridge

theorem install_ok {directory installed : Directory} (put : install directory = .ok installed) :
    installed = directory.write scriptName (bytesOf script) := by
  unfold install at put
  split at put
  · cases put
  · split at put
    · cases put
    · exact (Except.ok.inj put).symm

end Bridge

namespace Workspace

open StagedFile

variable {files : Files} {scratch : Except FileError Path} {inputs definitions : List Path}
  {options : CompilerOptions} {w : Workspace}

-- A name under which a file can be staged without taking any other file's place.
structure Reserved (name : String) : Prop where
  step : Path.IsStep name
  apart : name ≠ configurationName
  free : name ≠ Bridge.scriptName

theorem reserved_fileName (built : Built files scratch inputs definitions options w) {name : String}
    (listed : name ∈ w.fileNames) : Reserved name := by
  rw [fileNames_eq built] at listed
  rcases List.mem_append.mp listed with script | declaration
  · obtain ⟨p, _, rfl⟩ := List.mem_map.mp script
    exact ⟨isStep_checkerName p, checkerName_ne_configuration p, checkerName_ne (by decide)⟩
  · obtain ⟨one, staged, rfl⟩ := List.mem_map.mp declaration
    exact ⟨isStep_declared staged, declared_ne_configuration staged,
      declared_ne staged (by decide)⟩

theorem read?_eq_none (built : Built files scratch inputs definitions options w) {name : String}
    (apart : name ≠ configurationName) (absent : name ∉ w.fileNames) :
    w.directory.read? name = none := by
  obtain ⟨path, _, full⟩ := built.filled
  obtain ⟨copied, ran, written⟩ := fill_ok full
  rw [written, read?_write_of_ne apart, Directory.read?, copies_frame ran absent]
  rfl

theorem script_absent (built : Built files scratch inputs definitions options w) :
    w.directory.read? Bridge.scriptName = none := by
  refine read?_eq_none built (by decide) ?_
  intro listed
  exact (reserved_fileName built listed).free rfl

theorem getElem?_declared {i : Nat} {p : Path} (given : definitions[i]? = some p) :
    (declared definitions)[i]? = some (declarationsAt (p, i)) := by
  have stated : ¬ definitions.isEmpty = true := by
    intro none
    rw [List.isEmpty_iff.mp none] at given
    cases given
  rw [declared, if_neg stated, List.getElem?_map, List.getElem?_zipIdx, given, Option.map_some,
    Option.map_some, Nat.zero_add]

theorem fileNames_declared (built : Built files scratch inputs definitions options w) {i : Nat}
    {p : Path} (given : definitions[i]? = some p) :
    w.fileNames[inputs.length + i]? = some (numberedName i (baseName p)) := by
  rw [fileNames_eq built, List.getElem?_append_right (by simp), List.length_map,
    Nat.add_sub_cancel_left, List.getElem?_map, getElem?_declared given]
  rfl

theorem copy_held (built : Built files scratch inputs definitions options w) {i : Nat} {p : Path}
    (given : definitions[i]? = some p) : ∃ content, files.read p = .ok content
      ∧ w.directory.read? (numberedName i (baseName p)) = some content := by
  have staged := List.mem_of_getElem? (getElem?_declared given)
  obtain ⟨file, stored, held⟩ := declaration_held built staged
  have found : files.file p = .ok file := stored
  refine ⟨file.content, ?_, held⟩
  rw [Files.read, found]
  rfl

theorem bundled_held (built : Built files scratch inputs [] options w) :
    w.directory.read? "0_rocky.d.ts" = some (bytesOf Declarations.text) := by
  obtain ⟨file, read, held⟩ := declaration_held built (List.mem_singleton.mpr rfl)
  cases read
  exact held

structure Preserved (files : Files) (inputs definitions : List Path) (options : CompilerOptions)
    (w : Workspace) : Prop where
  distinct : ((declared definitions).map StagedFile.name).Nodup
  copied : ∀ i p, definitions[i]? = some p →
    p.fileName? = some (baseName p).toList
      ∧ w.fileNames[inputs.length + i]? = some (numberedName i (baseName p))
      ∧ ∃ content, files.read p = .ok content
        ∧ w.directory.read? (numberedName i (baseName p)) = some content
  bundled : definitions = [] → w.fileNames = inputs.map checkerName ++ ["0_rocky.d.ts"]
    ∧ w.directory.read? "0_rocky.d.ts" = some (bytesOf Declarations.text)
  reserved : ∀ name ∈ w.fileNames, Reserved name
  below : ∀ name ∈ w.fileNames,
    (w.directory.pathOf name).steps = w.directory.path.steps ++ [name.toList]
  configured : w.directory.read? configurationName
    = some (bytesOf (configuration options w.fileNames).pretty)
  bare : ∀ name, name ≠ configurationName → name ∉ w.fileNames → w.directory.read? name = none
  vacant : w.directory.read? Bridge.scriptName = none
  installed : ∀ directory, Bridge.install w.directory = .ok directory →
    directory.read? Bridge.scriptName = some (bytesOf Bridge.script)
      ∧ ∀ name, name ≠ Bridge.scriptName → directory.read? name = w.directory.read? name

theorem staged_preserved (staged : stage files scratch inputs definitions options = .ok w) :
    Preserved files inputs definitions options w := by
  have built := stage_built staged
  have passes := passes_of_staged staged
  refine ⟨nodup_declared definitions, ?_, ?_, ?_, ?_, configuration_held built, ?_,
    script_absent built, ?_⟩
  · intro i p given
    have ends := (passes.declarations p (List.mem_of_getElem? given)).1
    obtain ⟨name, named⟩ := Path.exists_fileName ends
    refine ⟨?_, fileNames_declared built given, copy_held built given⟩
    simp [baseName, named]
  · rintro rfl
    exact ⟨fileNames_eq built, bundled_held built⟩
  · intro name listed
    exact reserved_fileName built listed
  · intro name listed
    exact Path.steps_join w.directory.path (reserved_fileName built listed).step
  · intro name apart absent
    exact read?_eq_none built apart absent
  · intro directory put
    rw [Bridge.install_ok put]
    refine ⟨?_, fun name free => read?_write_of_ne free⟩
    simp [Directory.read?, Directory.write, Dictionary.find?_insert]

-- Declaration files of which one is given twice and one is called as another will be, and which
-- hold what would be taken for a type in a script.
def repeated : Files :=
  (((FileTree.empty.addFile ["face.js".toList] { content := bytesOf "var x;" }).addFile
    ["lib".toList, "1_api.d.ts".toList] { content := bytesOf "var y/*: T */;" }).addFile
    ["api.d.ts".toList] { content := bytesOf "var z/*: T */;" }).files []

theorem repeated_preserved : ∃ w,
    stage repeated (.ok ⟨"/tmp/rocky-lint-1"⟩) [⟨"face.js"⟩]
        [⟨"lib/1_api.d.ts"⟩, ⟨"api.d.ts"⟩, ⟨"api.d.ts"⟩] {} = .ok w
      ∧ w.fileNames = ["face.ts", "0_1_api.d.ts", "1_api.d.ts", "2_api.d.ts"]
      ∧ Preserved repeated [⟨"face.js"⟩] [⟨"lib/1_api.d.ts"⟩, ⟨"api.d.ts"⟩, ⟨"api.d.ts"⟩] {} w := by
  have named : (stage repeated (.ok ⟨"/tmp/rocky-lint-1"⟩) [⟨"face.js"⟩]
      [⟨"lib/1_api.d.ts"⟩, ⟨"api.d.ts"⟩, ⟨"api.d.ts"⟩] {}).map fileNames
        = .ok ["face.ts", "0_1_api.d.ts", "1_api.d.ts", "2_api.d.ts"] := by decide +kernel
  obtain ⟨w, staged, names⟩ := ok_of_map named
  exact ⟨w, staged, names, staged_preserved staged⟩

end Workspace

end WatchfaceCheck
