import Mathlib.Tactic.Convert
import WatchfaceCheck.Bridge
import WatchfaceCheck.Proofs.Dictionary
import WatchfaceCheck.Proofs.Json.Reading
import WatchfaceCheck.Proofs.Json.Records
import WatchfaceCheck.Proofs.Utf8
namespace WatchfaceCheck

open Text
open Json (Printable Slot WritesEach WritesRecord)

theorem uint32?_ofNat (n : UInt32) : uint32? (.ofNat n.toNat) = some n := by
  rw [uint32?, Json.natBelow?_ofNat n.toNat_lt, Option.map_some, UInt32.ofNat_toNat]

theorem uint64?_ofNat (n : UInt64) : uint64? (.ofNat n.toNat) = some n := by
  rw [uint64?, Json.natBelow?_ofNat n.toNat_lt, Option.map_some, UInt64.ofNat_toNat]

namespace Category

theorem ofJson?_ofNat (category : Category) : ofJson? (.ofNat category.code) = some category := by
  have small : category.code < 256 := by cases category <;> decide
  rw [ofJson?, Json.natBelow?_ofNat small, Option.bind_some, ofCode?_code]

end Category

namespace Message

def slots (m : Message) : List Slot :=
  [⟨"code", (· = .ofNat m.code.toNat), False⟩,
    ⟨"text", (· = .ofText m.text), False⟩,
    ⟨"category", (· = .ofNat m.category.code), False⟩,
    ⟨"depth", (· = .ofNat m.depth.toNat), m.depth = 0⟩]

def Writes (m : Message) (json : Json) : Prop := WritesRecord m.slots json

theorem ofJson?_written (m : Message) (json : Json) (written : m.Writes json) :
    ofJson? json = some m := by
  have distinct : (m.slots.map Slot.name).Nodup := (by decide : fieldNames.Nodup)
  obtain ⟨found, told, finds⟩ := Json.fields?_record distinct written
  change Json.fields? fieldNames json = some found at told
  obtain _ | ⟨code, _ | ⟨text, _ | ⟨category, _ | ⟨depth, _ | _⟩⟩⟩⟩ := finds
  have code := Json.Field.required_eq code not_false fun _ same => same ▸ uint32?_ofNat m.code
  have text := Json.Field.required_eq text not_false fun _ same => same ▸ Json.text?_ofText m.text
  have category := Json.Field.required_eq category not_false fun _ same =>
    same ▸ Category.ofJson?_ofNat m.category
  have depth := Json.Field.defaulted_eq 0 depth id fun _ same => same ▸ uint64?_ofNat m.depth
  simp only [ofJson?, told, code, text, category, depth, Option.bind_eq_bind, Option.bind_some,
    Option.pure_def]

theorem printable (m : Message) : Printable m.Writes := by
  refine Json.printable_record ?_
  simp only [slots, List.forall_mem_cons]
  exact ⟨Json.printable_ofNat _, Json.printable_ofText _, Json.printable_ofNat _,
    Json.printable_ofNat _, List.forall_mem_nil _⟩

end Message

namespace Diagnostic

def fileJson : Option String → Json
  | none => .null
  | some file => .ofText file

def slots (d : Diagnostic) : List Slot :=
  [⟨"file", (· = fileJson d.file), d.file = none⟩,
    ⟨"start", (· = .ofNat d.start.toNat), d.start = 0⟩,
    ⟨"length", (· = .ofNat d.length.toNat), d.length = 0⟩,
    ⟨"category", (· = .ofNat d.category.code), False⟩,
    ⟨"code", (· = .ofNat d.code.toNat), False⟩,
    ⟨"chain", WritesEach Message.Writes d.chain, False⟩]

def Writes (d : Diagnostic) (json : Json) : Prop := WritesRecord d.slots json

theorem optional_file {d : Diagnostic} {found : Option Json}
    (finds : Slot.Finds ⟨"file", (· = fileJson d.file), d.file = none⟩ found) :
    Json.Field.optional Json.text? found = some d.file := by
  cases found with
  | none => exact congrArg some (Eq.symm finds)
  | some json =>
    obtain rfl : json = fileJson d.file := finds
    cases d.file with
    | none => rfl
    | some file => exact congrArg (Option.map some) (Json.text?_ofText file)

theorem ofJson?_written (d : Diagnostic) (json : Json) (written : d.Writes json) :
    ofJson? json = some d := by
  have distinct : (d.slots.map Slot.name).Nodup := (by decide : fieldNames.Nodup)
  obtain ⟨found, told, finds⟩ := Json.fields?_record distinct written
  change Json.fields? fieldNames json = some found at told
  obtain _ | ⟨file, _ | ⟨start, _ | ⟨length, _ | ⟨category, _ | ⟨code, _ | ⟨chain, _ | _⟩⟩⟩⟩⟩⟩ :=
    finds
  have file := optional_file file
  have start := Json.Field.defaulted_eq 0 start id fun _ same => same ▸ uint32?_ofNat d.start
  have length := Json.Field.defaulted_eq 0 length id fun _ same => same ▸ uint32?_ofNat d.length
  have category := Json.Field.required_eq category not_false fun _ same =>
    same ▸ Category.ofJson?_ofNat d.category
  have code := Json.Field.required_eq code not_false fun _ same => same ▸ uint32?_ofNat d.code
  have chain := Json.Field.required_eq chain not_false fun _ =>
    Json.list?_written Message.ofJson?_written
  simp only [ofJson?, told, file, start, length, category, code, chain, Option.bind_eq_bind,
    Option.bind_some, Option.pure_def]

theorem printable (d : Diagnostic) : Printable d.Writes := by
  have file : Printable (· = fileJson d.file) := by
    cases d.file with
    | none => exact ⟨.null, rfl, .cons trivial Json.Token.sound_nil⟩
    | some file => exact Json.printable_ofText file
  have chain : Printable (WritesEach Message.Writes d.chain) :=
    Json.printable_each fun m _ => m.printable
  refine Json.printable_record ?_
  simp only [slots, List.forall_mem_cons]
  exact ⟨file, Json.printable_ofNat _, Json.printable_ofNat _, Json.printable_ofNat _,
    Json.printable_ofNat _, chain, List.forall_mem_nil _⟩

end Diagnostic

namespace Snapshot

def WritesTexts (texts : Dictionary String) (json : Json) : Prop :=
  ∃ entries : List (String × String), entries.Perm texts.entries
    ∧ json = .ofMembers (entries.map fun entry => (entry.1, .ofText entry.2))

theorem sources?_written {texts : Dictionary String} {json : Json}
    (written : WritesTexts texts json) : sources? json = some texts := by
  obtain ⟨entries, mixed, rfl⟩ := written
  have each : (entries.map fun entry => (entry.1, Json.ofText entry.2)).mapM (fun member =>
      (Json.text? member.2).map fun text => (member.1, text)) = some entries :=
    Json.mapM_map (fun entry => by rw [Json.text?_ofText]; rfl) entries
  simp only [sources?, Json.members?_ofMembers, each, Option.bind_eq_bind, Option.bind_some,
    Option.pure_def, Dictionary.ofList_of_perm mixed]

def slots (s : Snapshot) : List Slot :=
  [⟨"options", WritesEach Diagnostic.Writes s.options, s.options = []⟩,
    ⟨"global", WritesEach Diagnostic.Writes s.global, s.global = []⟩,
    ⟨"syntactic", WritesEach Diagnostic.Writes s.syntactic, s.syntactic = []⟩,
    ⟨"semantic", WritesEach Diagnostic.Writes s.semantic, s.semantic = []⟩,
    ⟨"sources", WritesTexts s.sources, s.sources = .empty⟩]

def Writes (s : Snapshot) (json : Json) : Prop := WritesRecord s.slots json

theorem ofJson?_written {s : Snapshot} {json : Json} (written : s.Writes json) :
    ofJson? json = some s := by
  have distinct : (s.slots.map Slot.name).Nodup := (by decide : fieldNames.Nodup)
  obtain ⟨found, told, finds⟩ := Json.fields?_record distinct written
  change Json.fields? fieldNames json = some found at told
  obtain _ | ⟨options, _ | ⟨global, _ | ⟨syntactic, _ | ⟨semantic, _ | ⟨sources, _ | _⟩⟩⟩⟩⟩ := finds
  have list {name : String} {found : Option Json} {diagnostics : List Diagnostic}
      (finds : Slot.Finds ⟨name, WritesEach Diagnostic.Writes diagnostics, diagnostics = []⟩ found) :
      Json.Field.defaulted [] (Json.list? Diagnostic.ofJson?) found = some diagnostics :=
    Json.Field.defaulted_eq [] finds id fun _ => Json.list?_written Diagnostic.ofJson?_written
  have sources := Json.Field.defaulted_eq .empty sources id fun _ => sources?_written
  simp only [ofJson?, told, list options, list global, list syntactic, list semantic, sources,
    Option.bind_eq_bind, Option.bind_some, Option.pure_def]

theorem printable (s : Snapshot) : Printable s.Writes := by
  have list (diagnostics : List Diagnostic) :
      Printable (WritesEach Diagnostic.Writes diagnostics) :=
    Json.printable_each fun d _ => d.printable
  have sources : Printable (WritesTexts s.sources) := by
    refine ⟨_, ⟨s.sources.entries, .refl _, rfl⟩, Json.sound_ofMembers ?_⟩
    intro member listed
    obtain ⟨entry, _, rfl⟩ := List.mem_map.mp listed
    exact Json.sound_ofText entry.2
  refine Json.printable_record ?_
  simp only [slots, List.forall_mem_cons]
  exact ⟨list _, list _, list _, list _, sources, List.forall_mem_nil _⟩

def WrittenAs (s : Snapshot) (text : String) : Prop :=
  ∃ json, s.Writes json ∧ Json.Document json text.toList

theorem read?_written {s : Snapshot} {text : String} (written : s.WrittenAs text) :
    read? (symbolsOf text) = some s := by
  obtain ⟨json, writes, document⟩ := written
  rw [read?, symbolsOf, Json.read?_document document, Option.bind_some, ofJson?_written writes]

theorem exists_writtenAs (s : Snapshot) : ∃ text, s.WrittenAs text := by
  obtain ⟨json, writes, sound⟩ := s.printable
  exact ⟨json.compact, json, writes, Json.document_compact sound⟩

end Snapshot

namespace Bridge

theorem answer_written (program : Snapshot) :
    (∃ text, program.WrittenAs text) ∧ ∀ text complaint, program.WrittenAs text →
      answer { ending := .exited 0, output := bytesOf text, complaint } = .ok program := by
  refine ⟨program.exists_writtenAs, ?_⟩
  intro text complaint written
  have read : Snapshot.read? (Utf8.symbols (bytesOf text)) = some program := by
    rw [Utf8.symbols_bytesOf, Snapshot.read?_written written]
  unfold answer
  simp only [Ending.isSuccess, beq_self_eq_true, if_true, read]

-- A finding in no file, in a document that leaves out what it need not say, brings its members in
-- another order, spells a name with an escape, and holds a member that nobody asked for.
def looseProgram : Snapshot := Snapshot.empty.withDiagnostic .global (.ofText .error 1 "?")

def looseMessage : Json :=
  .ofMembers [("text", .ofText "?"), ("code", .ofNat 1), ("category", .ofNat 1)]

def looseDiagnostic : Json :=
  .ofMembers [("code", .ofNat 1), ("category", .ofNat 1), ("chain", .array [looseMessage])]

def looseJson : Json :=
  .ofMembers [("😀", .array [.number ⟨true, [1], [5], some 3⟩, .null]),
    ("global", .array [looseDiagnostic])]

def looseText : String :=
  "\x7b \"\\ud83d\\uDE00\":[-1.5e+3,null],\n\"\\u0067lobal\" : [\x7b\"code\":1,\"category\":1,"
    ++ "\"chain\":[\x7b\"text\":\"?\",\"code\":1,\"category\":1\x7d]\x7d] \x7d"

theorem writes_looseJson : looseProgram.Writes looseJson := by
  have message : Message.Writes ⟨1, "?", .error, 0⟩ looseMessage :=
    ⟨_, [], _, .written rfl (.written rfl (.written rfl (.omitted rfl .nil))), by simp,
      .swap _ _ _, rfl⟩
  have chain : WritesEach Message.Writes [⟨1, "?", .error, 0⟩] (.array [looseMessage]) :=
    ⟨_, rfl, .cons message .nil⟩
  have diagnostic : Diagnostic.Writes (.ofText .error 1 "?") looseDiagnostic :=
    ⟨_, [], _, .omitted rfl (.omitted rfl (.omitted rfl
      (.written rfl (.written rfl (.written chain .nil))))), by simp, .swap _ _ _, rfl⟩
  have global : WritesEach Diagnostic.Writes looseProgram.global (.array [looseDiagnostic]) :=
    ⟨_, rfl, .cons diagnostic .nil⟩
  exact ⟨_, [("😀", _)], _, .omitted rfl (.written global (.omitted rfl (.omitted rfl
    (.omitted rfl .nil)))), by simp [Snapshot.slots], .swap _ _ _, rfl⟩

section

open Json Json.Token

theorem document_looseText : Document looseJson looseText.toList := by
  have high : EscapedUnit 0xD83D "\\ud83d".toList :=
    .hex (a := 13) (b := 8) (c := 3) (d := 13) (by decide) (by decide) (by decide) (by decide)
  have low : EscapedUnit 0xDE00 "\\uDE00".toList :=
    .hex (a := 13) (b := 14) (c := 0) (d := 0) (by decide) (by decide) (by decide) (by decide)
  have face : SpellsChar '😀' "\\ud83d\\uDE00".toList := .units (.cons high (.cons low .nil))
  have unit : EscapedUnit 0x67 "\\u0067".toList :=
    .hex (a := 0) (b := 0) (c := 6) (d := 7) (by decide) (by decide) (by decide) (by decide)
  have letter : SpellsChar 'g' "\\u0067".toList := .units (.cons unit .nil)
  have unasked : Spells (.string [some '😀']) "\"\\ud83d\\uDE00\"".toList :=
    .string (.char face .nil)
  have asked : Spells (.string (symbolsOf "global")) "\"\\u0067lobal\"".toList :=
    .string (.char letter (spellsSymbols_written (symbolsOf "lobal")))
  have fraction : SpellsFraction [5] ".5".toList := .digits (by decide) (by decide)
  have power : SpellsExponent (some 3) "e+3".toList :=
    @SpellsExponent.digits 'e' ['+'] false [3] (by decide) (by decide) (by decide) (by decide)
  have number : Spells (.number ⟨true, [1], [5], some 3⟩) "-1.5e+3".toList :=
    .number (@SpellsNumber.parts true [1] _ _ _ _ (by decide) fraction power)
  have finding : Laid looseDiagnostic.tokens (looseDiagnostic.write .compact 0) :=
    document_write Layout.isBlank_compact (by decide)
  have space : Blanks [' '] := by decide
  have feed : Blanks ['\n'] := by decide
  have first := (Laid.single unasked).append <| (Laid.single .colon).append <|
    (Laid.single .openBracket).append <| (Laid.single number).append <|
    (Laid.single .comma).append <| (Laid.single .null).append (.single .closeBracket)
  have second := ((Laid.single asked).indent feed).append <|
    ((Laid.single .colon).indent space).append <|
    ((Laid.single .openBracket).indent space).append <| finding.append (.single .closeBracket)
  have whole := (Laid.single .openBrace).append <| (first.indent space).append <|
    (Laid.single .comma).append <| second.append ((Laid.single .closeBrace).indent space)
  unfold Document
  convert whole using 1
  · decide +kernel
  · decide +kernel

end

theorem answer_loose : looseProgram.WrittenAs looseText
    ∧ answer { ending := .exited 0, output := bytesOf looseText } = .ok looseProgram := by
  have written : looseProgram.WrittenAs looseText :=
    ⟨looseJson, writes_looseJson, document_looseText⟩
  exact ⟨written, (answer_written looseProgram).2 looseText [] written⟩

end Bridge

end WatchfaceCheck
