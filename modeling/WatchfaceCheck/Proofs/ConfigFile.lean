import WatchfaceCheck.Config
import WatchfaceCheck.Proofs.Json.Accepting
import WatchfaceCheck.Proofs.Json.Recorded
namespace WatchfaceCheck

open Text
open Json (IsRecord SaysNat TellsOption TellsOr WritesEach told)
open Json.Field

theorem Files.readText_eq_ok_iff {files : Files} {p : Path} {text : String} :
    files.readText p = .ok text
      ↔ ∃ file, files.look p = .ok (.file file) ∧ Utf8.symbols file.content = symbolsOf text := by
  rw [readText, read, file]
  cases files.look p with
  | error e => simp [Except.map]
  | ok entry =>
    cases entry with
    | directory d => simp [Except.map]
    | file file =>
      simp only [Except.map, ← Json.whole?_eq_some_iff, Except.ok.injEq, Entry.file.injEq,
        exists_eq_left']
      split
      · next unread => simp [unread]
      · next read => simp [read]

namespace CheckConfig

def SaysPath (p : Path) (json : Json) : Prop := json = .ofText p.text

def SaysBool (b : Bool) (json : Json) : Prop := json = .bool b

def SaysLimit (limit : UInt64) (json : Json) : Prop := SaysNat limit.toNat json

-- What a document says of the checks. Other names may stand beside these, but none of these may be
-- said wrongly or twice.
structure Told (config : CheckConfig) (json : Json) : Prop where
  record : IsRecord fieldNames json
  definitions : TellsOr [] (WritesEach SaysPath) config.definitions
    (told fieldNames "definitions" json)
  maxWarnings : TellsOption SaysLimit config.maxWarnings (told fieldNames "maxWarnings" json)
  pretty : TellsOr false SaysBool config.pretty (told fieldNames "pretty" json)
  suppress : TellsOr false SaysBool config.suppressObjectLiteralProperty
    (told fieldNames "suppressObjectLiteralProperty" json)
  node : TellsOption SaysPath config.node (told fieldNames "node" json)
  typescript : TellsOption SaysPath config.typescript (told fieldNames "typescript" json)

theorem path?_iff {json : Json} {p : Path} : path? json = some p ↔ SaysPath p json := by
  constructor
  · intro read
    obtain ⟨text, got, rfl⟩ := Option.map_eq_some_iff.mp read
    exact Json.text?_iff.mp got
  · intro spelt
    exact Option.map_eq_some_iff.mpr ⟨p.text, Json.text?_iff.mpr spelt, rfl⟩

theorem limit?_iff {json : Json} {limit : UInt64} :
    limit? json = some limit ↔ SaysLimit limit json := by
  constructor
  · intro read
    obtain ⟨value, got, rfl⟩ := Option.map_eq_some_iff.mp read
    obtain ⟨spelt, below⟩ := Json.natBelow?_iff.mp got
    rw [SaysLimit, UInt64.toNat_ofNat_of_lt' below]
    exact spelt
  · intro spelt
    have got := Json.natBelow?_iff.mpr ⟨spelt, limit.toNat_lt_size⟩
    exact Option.map_eq_some_iff.mpr ⟨limit.toNat, got, UInt64.ofNat_toNat⟩

theorem ofJson?_eq_some_iff {config : CheckConfig} {json : Json} :
    ofJson? json = some config ↔ config.Told json := by
  have distinct : fieldNames.Nodup := by decide
  constructor
  · intro read
    unfold ofJson? at read
    split at read
    · next definitions maxWarnings pretty suppress node typescript found =>
      obtain ⟨record, once, same⟩ := (Json.fields?_eq_some_iff distinct).mp found
      have once {name : String} (listed : name ∈ fieldNames) := once name listed
      cases same
      obtain ⟨definitions, gotDefinitions, read⟩ := Option.bind_eq_some_iff.mp read
      obtain ⟨maxWarnings, gotMaxWarnings, read⟩ := Option.bind_eq_some_iff.mp read
      obtain ⟨pretty, gotPretty, read⟩ := Option.bind_eq_some_iff.mp read
      obtain ⟨suppress, gotSuppress, read⟩ := Option.bind_eq_some_iff.mp read
      obtain ⟨node, gotNode, read⟩ := Option.bind_eq_some_iff.mp read
      obtain ⟨typescript, gotTypescript, read⟩ := Option.bind_eq_some_iff.mp read
      cases read
      refine ⟨record, ?_, ?_, ?_, ?_, ?_, ?_⟩
      · exact (defaulted_iff (Json.list?_iff path?_iff)).mp ⟨once (by decide), gotDefinitions⟩
      · exact (optional_iff limit?_iff rfl).mp ⟨once (by decide), gotMaxWarnings⟩
      · exact (defaulted_iff Json.bool?_iff).mp ⟨once (by decide), gotPretty⟩
      · exact (defaulted_iff Json.bool?_iff).mp ⟨once (by decide), gotSuppress⟩
      · exact (optional_iff path?_iff rfl).mp ⟨once (by decide), gotNode⟩
      · exact (optional_iff path?_iff rfl).mp ⟨once (by decide), gotTypescript⟩
    · cases read
  · intro tells
    obtain ⟨fewDefinitions, definitions⟩ :=
      (defaulted_iff (Json.list?_iff path?_iff)).mpr tells.definitions
    obtain ⟨fewMaxWarnings, maxWarnings⟩ := (optional_iff limit?_iff rfl).mpr tells.maxWarnings
    obtain ⟨fewPretty, pretty⟩ := (defaulted_iff Json.bool?_iff).mpr tells.pretty
    obtain ⟨fewSuppress, suppress⟩ := (defaulted_iff Json.bool?_iff).mpr tells.suppress
    obtain ⟨fewNode, node⟩ := (optional_iff path?_iff rfl).mpr tells.node
    obtain ⟨fewTypescript, typescript⟩ := (optional_iff path?_iff rfl).mpr tells.typescript
    have once : ∀ name ∈ fieldNames, (told fieldNames name json).length ≤ 1 := by
      simp only [fieldNames, List.forall_mem_cons]
      exact ⟨fewDefinitions, fewMaxWarnings, fewPretty, fewSuppress, fewNode, fewTypescript,
        List.forall_mem_nil _⟩
    unfold ofJson?
    rw [(Json.fields?_eq_some_iff distinct).mpr ⟨tells.record, once, rfl⟩]
    simp only [fieldNames, List.map_cons, List.map_nil] at *
    rw [definitions, maxWarnings, pretty, suppress, node, typescript]
    rfl

end CheckConfig

namespace Config

structure Told (written : Config) (json : Json) : Prop where
  record : IsRecord fieldNames json
  schema : TellsOption (fun text json => json = .ofText text) written.schema
    (told fieldNames "$schema" json)
  check : TellsOr {} CheckConfig.Told written.check (told fieldNames "check" json)

theorem ofJson?_eq_some_iff {written : Config} {json : Json} :
    ofJson? json = some written ↔ written.Told json := by
  have distinct : fieldNames.Nodup := by decide
  constructor
  · intro read
    unfold ofJson? at read
    split at read
    · next schema check found =>
      obtain ⟨record, once, same⟩ := (Json.fields?_eq_some_iff distinct).mp found
      cases same
      obtain ⟨schema, gotSchema, read⟩ := Option.bind_eq_some_iff.mp read
      obtain ⟨check, gotCheck, read⟩ := Option.bind_eq_some_iff.mp read
      cases read
      refine ⟨record, ?_, ?_⟩
      · exact (optional_iff Json.text?_iff rfl).mp ⟨once "$schema" (by decide), gotSchema⟩
      · exact (defaulted_iff CheckConfig.ofJson?_eq_some_iff).mp
          ⟨once "check" (by decide), gotCheck⟩
    · cases read
  · intro tells
    obtain ⟨fewSchema, schema⟩ := (optional_iff Json.text?_iff rfl).mpr tells.schema
    obtain ⟨fewCheck, check⟩ :=
      (defaulted_iff CheckConfig.ofJson?_eq_some_iff).mpr tells.check
    have once : ∀ name ∈ fieldNames, (told fieldNames name json).length ≤ 1 := by
      simp only [fieldNames, List.forall_mem_cons]
      exact ⟨fewSchema, fewCheck, List.forall_mem_nil _⟩
    unfold ofJson?
    rw [(Json.fields?_eq_some_iff distinct).mpr ⟨tells.record, once, rfl⟩]
    simp only [fieldNames, List.map_cons, List.map_nil] at *
    rw [schema, check]
    rfl

theorem read?_eq_some_iff {text : String} {written : Config} :
    read? text = some written ↔ ∃ json, Json.Document json text.toList ∧ written.Told json := by
  rw [read?, Option.bind_eq_some_iff]
  simp only [Json.read?_eq_some_iff, ofJson?_eq_some_iff]

def Holds (files : Files) (p : Path) (written : Config) : Prop :=
  ∃ file text json, files.look p = .ok (.file file) ∧ Utf8.symbols file.content = symbolsOf text
    ∧ Json.Document json text.toList ∧ written.Told json

-- A file that is not, by what it fails in. Of an invalid one much may be as a configuration has it.
inductive Unusable (files : Files) (p : Path) : Prop
  | lost {e : FileError} (gone : files.look p = .error e)
  | taken {d : Directory} (look : files.look p = .ok (.directory d))
  | garbled {file : StoredFile} (look : files.look p = .ok (.file file))
      (garbled : ∀ text, Utf8.symbols file.content ≠ symbolsOf text)
  | malformed {file : StoredFile} {text : String} (look : files.look p = .ok (.file file))
      (whole : Utf8.symbols file.content = symbolsOf text)
      (malformed : ∀ json, ¬ Json.Document json text.toList)
  | invalid {file : StoredFile} {text : String} {json : Json}
      (look : files.look p = .ok (.file file)) (whole : Utf8.symbols file.content = symbolsOf text)
      (document : Json.Document json text.toList) (invalid : ∀ written : Config, ¬ written.Told json)

section

variable {files : Files} {p : Path} {written : Config}

theorem holds_iff :
    Holds files p written ↔ ∃ text, files.readText p = .ok text ∧ read? text = some written := by
  simp only [Files.readText_eq_ok_iff, read?_eq_some_iff]
  constructor
  · rintro ⟨file, text, json, look, whole, document, tells⟩
    exact ⟨text, ⟨file, look, whole⟩, json, document, tells⟩
  · rintro ⟨text, ⟨file, look, whole⟩, json, document, tells⟩
    exact ⟨file, text, json, look, whole, document, tells⟩

theorem Unusable.not_holds (unusable : Unusable files p) : ¬ Holds files p written := by
  rintro ⟨file, text, json, found, decoded, read, tells⟩
  cases unusable with
  | lost gone =>
    rw [found] at gone
    cases gone
  | taken look =>
    rw [found] at look
    cases look
  | garbled look garbled =>
    rw [found] at look
    cases look
    exact garbled text decoded
  | malformed look whole malformed =>
    rw [found] at look
    cases look
    cases Json.symbolsOf_inj.mp (decoded.symm.trans whole)
    exact malformed json read
  | invalid look whole document invalid =>
    rw [found] at look
    cases look
    cases Json.symbolsOf_inj.mp (decoded.symm.trans whole)
    -- A text is a document of one value only, since it is read as that value.
    have one := (Json.read?_eq_some_iff.mpr document).symm.trans (Json.read?_eq_some_iff.mpr read)
    cases one
    exact invalid written tells

theorem unusable_of_not_holds (without : ∀ written, ¬ Holds files p written) :
    Unusable files p := by
  cases look : files.look p with
  | error e => exact .lost look
  | ok entry =>
    cases entry with
    | directory d => exact .taken look
    | file file =>
      by_cases whole : ∃ text, Utf8.symbols file.content = symbolsOf text
      · obtain ⟨text, whole⟩ := whole
        by_cases document : ∃ json, Json.Document json text.toList
        · obtain ⟨json, document⟩ := document
          refine .invalid look whole document ?_
          intro written tells
          exact without written ⟨file, text, json, look, whole, document, tells⟩
        · exact .malformed look whole (not_exists.mp document)
      · exact .garbled look (not_exists.mp whole)

theorem unusable_iff : Unusable files p ↔ ∀ written, ¬ Holds files p written := by
  constructor
  · intro unusable written
    exact unusable.not_holds
  · exact unusable_of_not_holds

theorem readAt_of_holds (holds : Holds files p written) (directory : Path) :
    readAt files directory p = .ok (written.resolve (base directory p)) := by
  obtain ⟨text, read, written⟩ := holds_iff.mp holds
  simp only [readAt, read, written]

theorem readAt_of_unusable (unusable : Unusable files p) (directory : Path) :
    ∃ warning, readAt files directory p = .error warning := by
  unfold readAt
  split
  · exact ⟨_, rfl⟩
  · next text read =>
    split
    · exact ⟨_, rfl⟩
    · next written said => exact absurd (holds_iff.mpr ⟨text, read, said⟩) unusable.not_holds

theorem load_of_holds {explicit : Option Path} {directory : Path}
    (holds : Holds files (path explicit directory) written) :
    load files explicit directory
      = .ok (written.resolve (base directory (path explicit directory))) := by
  have sought : isSought files explicit directory = true := by
    obtain ⟨file, -, -, look, -⟩ := holds
    rw [isSought, Files.contains, look, Bool.or_true]
  rw [load, if_pos sought, readAt_of_holds holds]

theorem orDefault_load_of_unusable {explicit : Option Path} {directory : Path}
    (unusable : Unusable files (path explicit directory)) :
    orDefault (load files explicit directory) = {} := by
  unfold load
  split
  · obtain ⟨warning, read⟩ := readAt_of_unusable unusable directory
    rw [read, orDefault]
  · rfl

end

end Config

end WatchfaceCheck
