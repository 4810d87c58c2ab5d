import WatchfaceCheck.Check
import WatchfaceCheck.Json.Plain
import WatchfaceCheck.Proofs.Json.Reading
import WatchfaceCheck.Proofs.Json.Records
import WatchfaceCheck.Proofs.Staging.Contents
import WatchfaceCheck.Proofs.Utf8
namespace WatchfaceCheck

open Text

namespace Json

def HasMembers (names : List String) (json : Json) : Prop :=
  ∃ members, members? json = some members ∧ (members.map Prod.fst).Perm names

def field? {α : Type} (value? : Json → Option α) (name : String) (json : Json) : Option α :=
  (json.member? name).bind value?

theorem lookup_symbolsOf (name : String) (members : List (String × Json)) :
    (members.map fun member => (symbolsOf member.1, member.2)).lookup (symbolsOf name)
      = members.lookup name := by
  induction members with
  | nil => rfl
  | cons member others ih =>
    obtain ⟨other, value⟩ := member
    rw [List.map_cons, List.lookup_cons, List.lookup_cons, ih]
    have same : (symbolsOf name == symbolsOf other) = (name == other) := by
      rw [Bool.eq_iff_iff, beq_iff_eq, beq_iff_eq, symbolsOf_inj]
    rw [same]

theorem member?_ofMembers (name : String) (members : List (String × Json)) :
    (ofMembers members).member? name = members.reverse.lookup name := by
  change ((members.map fun member => (symbolsOf member.1, member.2)).reverse).lookup _ = _
  rw [← List.map_reverse, lookup_symbolsOf]

theorem texts?_ofTexts (texts : List String) : list? text? (ofTexts texts) = some texts :=
  mapM_map text?_ofText texts

theorem sound_bool (b : Bool) : Token.Sound (Json.bool b).tokens := .cons trivial Token.sound_nil

theorem sound_ofTexts (texts : List String) : Token.Sound (ofTexts texts).tokens := by
  refine sound_array ?_
  intro item listed
  obtain ⟨text, _, rfl⟩ := List.mem_map.mp listed
  exact sound_ofText text

end Json

namespace CompilerOptions

structure ToldBy (options : CompilerOptions) (json : Json) : Prop where
  members : json.HasMembers
    ["target", "lib", "allowUnreachableCode", "allowUnusedLabels", "noEmit"]
  target : json.field? Json.text? "target" = some options.target
  lib : json.field? (Json.list? Json.text?) "lib" = some options.lib
  allowUnreachableCode :
    json.field? Json.bool? "allowUnreachableCode" = some options.allowUnreachableCode
  allowUnusedLabels : json.field? Json.bool? "allowUnusedLabels" = some options.allowUnusedLabels
  noEmit : json.field? Json.bool? "noEmit" = some options.noEmit

theorem toldBy_toSortedJson (options : CompilerOptions) : options.ToldBy options.toSortedJson := by
  have found (name : String) : options.toSortedJson.member? name = _ :=
    Json.member?_ofMembers name _
  have sorted : ["allowUnreachableCode", "allowUnusedLabels", "lib", "noEmit", "target"].Perm
      ["target", "lib", "allowUnreachableCode", "allowUnusedLabels", "noEmit"] := by decide
  refine ⟨⟨_, Json.members?_ofMembers _, sorted⟩, ?_, ?_, ?_, ?_, ?_⟩
  · rw [Json.field?, found]
    exact Json.text?_ofText options.target
  · rw [Json.field?, found]
    exact Json.texts?_ofTexts options.lib
  all_goals
    rw [Json.field?, found]
    rfl

theorem sound_toSortedJson (options : CompilerOptions) :
    Json.Token.Sound options.toSortedJson.tokens := by
  refine Json.sound_ofMembers ?_
  simp only [List.forall_mem_cons]
  exact ⟨Json.sound_bool _, Json.sound_bool _, Json.sound_ofTexts _, Json.sound_bool _,
    Json.sound_ofText _, List.forall_mem_nil _⟩

end CompilerOptions

namespace Workspace

variable {files : Files} {scratch : Except FileError Path} {inputs definitions : List Path}
  {options : CompilerOptions} {w : Workspace}

-- A value that tells the options and the names, in their order, and nothing else.
structure Tells (options : CompilerOptions) (names : List String) (json : Json) : Prop where
  members : json.HasMembers ["compilerOptions", "files"]
  options : ∃ told, json.member? "compilerOptions" = some told ∧ options.ToldBy told
  files : json.field? (Json.list? Json.text?) "files" = some names

def Configures (options : CompilerOptions) (names : List String) (text : String) : Prop :=
  ∃ json, Json.Document json text.toList ∧ Json.read? (Utf8.symbols (bytesOf text)) = some json
    ∧ Tells options names json

theorem tells_configuration (options : CompilerOptions) (names : List String) :
    Tells options names (configuration options names) := by
  have found (name : String) : (configuration options names).member? name = _ :=
    Json.member?_ofMembers name _
  refine ⟨⟨_, Json.members?_ofMembers _, .refl _⟩, ?_, ?_⟩
  · exact ⟨_, found "compilerOptions", options.toldBy_toSortedJson⟩
  · rw [Json.field?, found]
    exact Json.texts?_ofTexts names

theorem sound_configuration (options : CompilerOptions) (names : List String) :
    Json.Token.Sound (configuration options names).tokens := by
  refine Json.sound_ofMembers ?_
  simp only [List.forall_mem_cons]
  exact ⟨options.sound_toSortedJson, Json.sound_ofTexts names, List.forall_mem_nil _⟩

theorem configures_pretty (options : CompilerOptions) (names : List String) :
    Configures options names (configuration options names).pretty := by
  have document := Json.document_pretty (sound_configuration options names)
  refine ⟨_, document, ?_, tells_configuration options names⟩
  rw [Utf8.symbols_bytesOf, symbolsOf, Json.read?_document document]

theorem configuration_held (built : Built files scratch inputs definitions options w) :
    w.directory.read? configurationName = some (bytesOf (configuration options w.fileNames).pretty) := by
  obtain ⟨path, _, full⟩ := built.filled
  obtain ⟨copied, _, written⟩ := fill_ok full
  rw [written]
  unfold Directory.read? Directory.write
  rw [Dictionary.find?_insert, if_pos rfl]
  rfl

theorem configures_inj {other : CompilerOptions} {names others : List String} {text : String}
    (configures : Configures options names text) (also : Configures other others text) :
    options = other ∧ names = others := by
  obtain ⟨json, _, read, told⟩ := configures
  obtain ⟨again, _, reread, tells⟩ := also
  obtain rfl := Option.some.inj (read.symm.trans reread)
  obtain ⟨held, found, same⟩ := told.options
  obtain ⟨twin, refound, alike⟩ := tells.options
  obtain rfl := Option.some.inj (found.symm.trans refound)
  refine ⟨?_, Option.some.inj (told.files.symm.trans tells.files)⟩
  cases options
  cases other
  congr 1
  · exact Option.some.inj (same.target.symm.trans alike.target)
  · exact Option.some.inj (same.lib.symm.trans alike.lib)
  · exact Option.some.inj (same.allowUnreachableCode.symm.trans alike.allowUnreachableCode)
  · exact Option.some.inj (same.allowUnusedLabels.symm.trans alike.allowUnusedLabels)
  · exact Option.some.inj (same.noEmit.symm.trans alike.noEmit)

-- The configuration names the files that the checker is asked about, in the same order.
theorem configuration_faithful (options : CompilerOptions) :
    (∀ names, Configures options names (configuration options names).pretty)
    ∧ ∀ files scratch inputs definitions w,
      stage files scratch inputs definitions options = .ok w →
        ∃ text, w.directory.read? configurationName = some (bytesOf text)
          ∧ Configures options (w.question options).rootNames text
          ∧ (w.question options).rootNames = w.files.map StagedFile.name := by
  refine ⟨configures_pretty options, ?_⟩
  intro files scratch inputs definitions w staged
  have held := configuration_held (stage_built staged)
  exact ⟨_, held, configures_pretty options w.fileNames, rfl⟩

-- A script whose name has to be escaped.
def quoted : Files :=
  (FileTree.empty.addFile ["a\"\\\té.js".toList] { content := bytesOf "var x;" }).files []

theorem configuration_of_quoted : ∃ w text,
    stage quoted (.ok ⟨"/tmp/rocky-lint-1"⟩) [⟨"a\"\\\té.js"⟩] [] {} = .ok w
      ∧ w.directory.read? configurationName = some (bytesOf text)
      ∧ Configures {} ["a\"\\\té.ts", "0_rocky.d.ts"] text := by
  have named : (stage quoted (.ok ⟨"/tmp/rocky-lint-1"⟩) [⟨"a\"\\\té.js"⟩] [] {}).map fileNames
      = .ok ["a\"\\\té.ts", "0_rocky.d.ts"] := by decide +kernel
  obtain ⟨w, staged, names⟩ := ok_of_map named
  obtain ⟨text, held, configures, listed⟩ := (configuration_faithful {}).2 _ _ _ _ w staged
  refine ⟨w, text, staged, held, ?_⟩
  rw [listed, ← fileNames, names] at configures
  exact configures

end Workspace

end WatchfaceCheck
