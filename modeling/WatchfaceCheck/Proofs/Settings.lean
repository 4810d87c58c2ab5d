import WatchfaceCheck.Proofs.ConfigFile
import WatchfaceCheck.Proofs.ExitStatus
import WatchfaceCheck.Proofs.FileSystem
import WatchfaceCheck.Proofs.Utf8
namespace WatchfaceCheck

open Text

namespace Config

structure Placed (base : Path) (written loaded : Config) : Prop where
  schema : loaded.schema = written.schema
  definitions : List.Forall₂ (Pinned base) written.check.definitions loaded.check.definitions
  maxWarnings : loaded.check.maxWarnings = written.check.maxWarnings
  pretty : loaded.check.pretty = written.check.pretty
  suppress : loaded.check.suppressObjectLiteralProperty
    = written.check.suppressObjectLiteralProperty
  node : Option.Rel (Pinned base) written.check.node loaded.check.node
  typescript : Option.Rel (Pinned base) written.check.typescript loaded.check.typescript

theorem rel_map_join (base : Path) (p? : Option Path) :
    Option.Rel (Pinned base) p? (p?.map base.join) := by
  cases p? with
  | none => exact .none
  | some p => exact .some (pinned_iff.mpr rfl)

theorem placed_resolve (base : Path) (written : Config) :
    Placed base written (written.resolve base) where
  schema := rfl
  definitions := List.forall₂_map_right_iff.mpr
    (List.forall₂_same.mpr fun _ _ => pinned_iff.mpr rfl)
  maxWarnings := rfl
  pretty := rfl
  suppress := rfl
  node := rel_map_join base written.check.node
  typescript := rel_map_join base written.check.typescript

variable {system : FileSystem} {p : Path} {written : Config}

theorem Holds.elsewhere {here : Path} (holds : Holds (system.seenFrom here) p written)
    (absolute : p.isAbsolute = true) (there : Path) : Holds (system.seenFrom there) p written := by
  obtain ⟨file, text, json, look, read⟩ := holds
  rw [system.fixed absolute here there] at look
  exact ⟨file, text, json, look, read⟩

theorem Holds.exists_holder {here : Path} (holds : Holds (system.seenFrom here) p written)
    (absolute : p.isAbsolute = true) : ∃ base : Path, base.Holder p := by
  obtain ⟨file, -, -, look, -⟩ := holds
  obtain ⟨name, named⟩ := system.named absolute look
  exact Path.exists_holder absolute named

theorem load_elsewhere {here base : Path} (absolute : p.isAbsolute = true) (holder : base.Holder p)
    (holds : Holds (system.seenFrom here) p written) (there : Path) :
    load (system.seenFrom there) (some p) there = .ok (written.resolve base) := by
  have same : path (some p) there = p := Path.join_of_isAbsolute absolute there
  have found : Holds (system.seenFrom there) (path (some p) there) written := by
    rw [same]
    exact holds.elsewhere absolute there
  rw [load_of_holds found, same, Config.base, holder.above, Option.getD_some]

end Config

-- What the settings of a run are made of: declarations and a limit on the command line replace those
-- of the configuration, and what either of them asks for is printed prettily. The tools are those of
-- the configuration.
structure Settings.Merged (arguments : Arguments) (config : CheckConfig) (directory : Path)
    (settings : Settings) : Prop where
  replaced : arguments.definitions ≠ [] → settings.definitions = arguments.definitions
  filled : arguments.definitions = [] → settings.definitions = config.definitions
  limited : ∀ limit, arguments.maxWarnings = some limit → settings.check.maxWarnings = some limit
  unlimited : arguments.maxWarnings = none → settings.check.maxWarnings = config.maxWarnings
  pretty : settings.check.report.pretty = true ↔ arguments.pretty = true ∨ config.pretty = true
  suppressed : settings.check.report.suppression = .objectLiteralProperty
    ↔ config.suppressObjectLiteralProperty = true
  color : settings.check.report.color = arguments.color
  compiler : settings.check.compiler = {}
  node : settings.tools.node = config.node
  typescript : settings.tools.typescript = config.typescript
  searchRoot : settings.tools.searchRoot = directory

theorem Arguments.merged_settings (arguments : Arguments) (config : CheckConfig)
    (directory : Path) : Settings.Merged arguments config directory
      (arguments.settings config directory) where
  replaced given := by
    rw [settings, if_neg (by simpa using given)]
  filled without := by
    rw [settings, if_pos (by simpa using without)]
  limited limit given := by
    rw [settings, given]
    rfl
  unlimited without := by
    rw [settings, without]
    rfl
  pretty := Bool.or_eq_true_iff
  suppressed := by
    simp only [settings, reportOptions, CheckConfig.suppression]
    cases config.suppressObjectLiteralProperty <;> decide
  color := rfl
  compiler := rfl
  node := rfl
  typescript := rfl
  searchRoot := rfl

namespace Run

theorem settingsOf_eq {files : Files} {directory : Path} {arguments : Arguments} {config : Config}
    (counts : Config.orDefault (Config.load files arguments.config directory) = config) :
    settingsOf files directory arguments = arguments.settings config.check directory := by
  rw [settingsOf, Arguments.loadConfig, counts]

-- A run takes its settings from the whole of its configuration file or, where that is not of use, as
-- if there were none; and from wherever the file is loaded, it sets the same.
theorem settings_of_config_file (system : FileSystem) {directory : Path}
    (launched : directory.isAbsolute = true) (arguments : Arguments) :
    let files := system.seenFrom directory
    let path := Config.path arguments.config directory
    let settings := settingsOf files directory arguments
    (Config.Unusable files path ↔ ∀ written, ¬ Config.Holds files path written)
    ∧ (Config.Unusable files path → Settings.Merged arguments {} directory settings
      ∧ ∀ bare : Files, bare.contains (Config.path none directory) = false →
        settings = settingsOf bare directory { arguments with config := none })
    ∧ ∀ written, Config.Holds files path written → ∃ base loaded, base.Holder path
      ∧ Config.Placed base written loaded
      ∧ Config.load files arguments.config directory = .ok loaded
      ∧ (∀ elsewhere, Config.load (system.seenFrom elsewhere) (some path) elsewhere = .ok loaded)
      ∧ Settings.Merged arguments loaded.check directory settings := by
  intro files path settings
  have absolute : path.isAbsolute = true := Path.isAbsolute_join launched _
  refine ⟨Config.unusable_iff, ?_, ?_⟩
  · intro unusable
    have ignored : settings = arguments.settings {} directory :=
      settingsOf_eq (Config.orDefault_load_of_unusable unusable)
    rw [ignored]
    refine ⟨arguments.merged_settings {} directory, ?_⟩
    intro bare missing
    -- A file of no use and a file that is not there both leave the defaults.
    have absent : Config.load bare none directory = .ok {} := by
      rw [Config.load, Config.isSought, missing]
      rfl
    rw [settingsOf, Arguments.loadConfig, absent]
    rfl
  · intro written holds
    obtain ⟨base, holder⟩ := holds.exists_holder absolute
    have loaded : Config.load files arguments.config directory = .ok (written.resolve base) := by
      rw [Config.load_of_holds holds, Config.base, holder.above, Option.getD_some]
    have counts : settings = arguments.settings (written.resolve base).check directory :=
      settingsOf_eq (congrArg Config.orDefault loaded)
    refine ⟨base, written.resolve base, holder, Config.placed_resolve base written, loaded, ?_, ?_⟩
    · exact Config.load_elsewhere absolute holder holds
    · rw [counts]
      exact arguments.merged_settings (written.resolve base).check directory

def projectConfig : Config where
  check :=
    { definitions := [⟨"api.d.ts"⟩, ⟨"/lib/rocky.d.ts"⟩]
      maxWarnings := some 10
      node := some ⟨"bin/node"⟩ }

def wrongConfig : Json :=
  .ofMembers [("check", .ofMembers [("definitions", .ofTexts ["api.d.ts"]), ("pretty", .bool true),
    ("maxWarnings", .ofText "few")])]

def project : FileTree where
  leaves := [([], .directory), (["work".toList], .directory),
    (["work".toList, "conf".toList], .directory),
    (["work".toList, "conf".toList, "lint.json".toList],
      .file { content := bytesOf projectConfig.toJson.compact }),
    (["work".toList, "rocky-lint.config.json".toList],
      .file { content := bytesOf wrongConfig.compact })]

theorem holds_project : Config.Holds (project.system.seenFrom ⟨"/work"⟩)
    (Config.path (some ⟨"conf/lint.json"⟩) ⟨"/work"⟩) projectConfig := by
  have look : (project.system.seenFrom ⟨"/work"⟩).look (Config.path (some ⟨"conf/lint.json"⟩) ⟨"/work"⟩)
      = .ok (.file { content := bytesOf projectConfig.toJson.compact }) := by
    with_unfolding_all rfl
  have document : Json.Document projectConfig.toJson projectConfig.toJson.compact.toList :=
    Json.document_compact (by decide)
  have told : projectConfig.Told projectConfig.toJson :=
    Config.ofJson?_eq_some_iff.mp (by with_unfolding_all rfl)
  exact ⟨_, _, _, look, Utf8.symbols_bytesOf _, document, told⟩

theorem unusable_project : Config.Unusable (project.system.seenFrom ⟨"/work"⟩)
    (Config.path none ⟨"/work"⟩) := by
  refine .invalid (by with_unfolding_all rfl) (Utf8.symbols_bytesOf wrongConfig.compact)
    (Json.document_compact (by decide)) ?_
  intro written tells
  have read := Config.ofJson?_eq_some_iff.mpr tells
  have refused : Config.ofJson? wrongConfig = none := by with_unfolding_all rfl
  rw [refused] at read
  cases read

def fromProject : Arguments := { definitions := [⟨"own.d.ts"⟩], config := some ⟨"conf/lint.json"⟩ }

theorem settings_on_project :
    (∃ loaded, Config.load (project.system.seenFrom ⟨"/home"⟩) (some ⟨"/work/conf/lint.json"⟩)
        ⟨"/home"⟩ = .ok loaded
      ∧ loaded.check.definitions = [⟨"/work/conf/api.d.ts"⟩, ⟨"/lib/rocky.d.ts"⟩])
    ∧ (settingsOf (project.system.seenFrom ⟨"/work"⟩) ⟨"/work"⟩ fromProject).definitions
      = [⟨"own.d.ts"⟩]
    ∧ (settingsOf (project.system.seenFrom ⟨"/work"⟩) ⟨"/work"⟩ fromProject).check.maxWarnings
      = some 10
    ∧ settingsOf (project.system.seenFrom ⟨"/work"⟩) ⟨"/work"⟩ {}
      = settingsOf (FileTree.empty.files []) ⟨"/work"⟩ {} := by
  have launched : (⟨"/work"⟩ : Path).isAbsolute = true := by decide
  obtain ⟨-, -, counted⟩ := settings_of_config_file project.system launched fromProject
  obtain ⟨-, ignored, -⟩ := settings_of_config_file project.system launched {}
  obtain ⟨base, loaded, holder, placed, -, elsewhere, merged⟩ := counted projectConfig holds_project
  have above : (Config.path fromProject.config ⟨"/work"⟩).parent? = some ⟨"/work/conf"⟩ := by
    with_unfolding_all rfl
  cases above.symm.trans holder.above
  have definitions : loaded.check.definitions = [⟨"/work/conf/api.d.ts"⟩, ⟨"/lib/rocky.d.ts"⟩] := by
    have pinned := placed.definitions
    generalize loaded.check.definitions = found at pinned ⊢
    rcases pinned with _ | ⟨api, _ | ⟨lib, ⟨⟩⟩⟩
    rw [api.joined, lib.joined]
    rfl
  refine ⟨⟨loaded, elsewhere ⟨"/home"⟩, definitions⟩, ?_, ?_, ?_⟩
  · exact merged.replaced (by decide)
  · exact (merged.unlimited rfl).trans placed.maxWarnings
  · exact (ignored unusable_project).2 _ (by with_unfolding_all rfl)

end Run

end WatchfaceCheck
