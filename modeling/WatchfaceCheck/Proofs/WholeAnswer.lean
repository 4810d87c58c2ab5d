import WatchfaceCheck.Proofs.Course
import WatchfaceCheck.Proofs.Json.Told
import WatchfaceCheck.Proofs.SnapshotFormat
namespace WatchfaceCheck

open Text
open Json (Demand Fault SaysNat TellsEach TellsNat told)
open Json.Field

theorem saysNat_of_uint32? {n : UInt32} {json : Json} (read : uint32? json = some n) :
    SaysNat n.toNat json := by
  obtain ⟨value, below, rfl⟩ := Option.map_eq_some_iff.mp read
  obtain ⟨said, small⟩ := Json.saysNat_of_natBelow? below
  rw [UInt32.toNat_ofNat_of_lt' small]
  exact said

theorem saysNat_of_uint64? {n : UInt64} {json : Json} (read : uint64? json = some n) :
    SaysNat n.toNat json := by
  obtain ⟨value, below, rfl⟩ := Option.map_eq_some_iff.mp read
  obtain ⟨said, small⟩ := Json.saysNat_of_natBelow? below
  rw [UInt64.toNat_ofNat_of_lt' small]
  exact said

section

variable {α : Type} {said : List Json} {value? : Json → Option α} {value absent : α} {size : α → Nat}

theorem tellsNat_of_required
    (spelt : ∀ {value : α} {json : Json}, value? json = some value → SaysNat (size value) json)
    (once : said.length ≤ 1) (read : required value? said.head? = some value) :
    TellsNat (size value) said := by
  obtain ⟨json, one, got⟩ := required_told once read
  exact ⟨json, one, spelt got⟩

theorem tellsNat_of_defaulted
    (spelt : ∀ {value : α} {json : Json}, value? json = some value → SaysNat (size value) json)
    (once : said.length ≤ 1) (read : defaulted absent value? said.head? = some value) :
    said = [] ∧ value = absent ∨ TellsNat (size value) said := by
  rcases defaulted_told once read with missing | ⟨json, one, got⟩
  · exact .inl missing
  · exact .inr ⟨json, one, spelt got⟩

theorem eq_ofText_of_required {text : String} (once : said.length ≤ 1)
    (read : required Json.text? said.head? = some text) : said = [.ofText text] := by
  obtain ⟨json, one, got⟩ := required_told once read
  rw [one, Json.eq_ofText_of_text? got]

end

theorem guards_uint32 {demand : Demand} (bounded : demand.bound = some UInt32.size) :
    demand.Guards uint32? :=
  Demand.guards_of_saysNat UInt32.toNat bounded fun _ n read =>
    ⟨saysNat_of_uint32? read, n.toNat_lt_size⟩

theorem guards_uint64 {demand : Demand} (bounded : demand.bound = some UInt64.size) :
    demand.Guards uint64? :=
  Demand.guards_of_saysNat UInt64.toNat bounded fun _ n read =>
    ⟨saysNat_of_uint64? read, n.toNat_lt_size⟩

namespace Category

theorem saysNat_of_ofJson? {category : Category} {json : Json}
    (read : ofJson? json = some category) : SaysNat category.code json := by
  obtain ⟨code, below, known⟩ := Option.bind_eq_some_iff.mp read
  have same : code = category.code := by
    unfold ofCode? at known
    split at known <;> cases known <;> rfl
  rw [← same]
  exact (Json.saysNat_of_natBelow? below).1

theorem guards {demand : Demand} (bounded : demand.bound = some 4) : demand.Guards ofJson? :=
  Demand.guards_of_saysNat code bounded fun _ category read =>
    ⟨saysNat_of_ofJson? read, by cases category <;> decide⟩

end Category

namespace Message

theorem ofJson?_told {m : Message} {json : Json} (read : ofJson? json = some m) :
    (∀ name ∈ fieldNames, (told fieldNames name json).length ≤ 1)
      ∧ required uint32? (told fieldNames "code" json).head? = some m.code
      ∧ required Json.text? (told fieldNames "text" json).head? = some m.text
      ∧ required Category.ofJson? (told fieldNames "category" json).head? = some m.category
      ∧ defaulted 0 uint64? (told fieldNames "depth" json).head? = some m.depth := by
  unfold ofJson? at read
  split at read
  · next code text category depth fields =>
    obtain ⟨found, once⟩ := Json.fields?_told (by decide) fields
    cases found
    obtain ⟨code, gotCode, read⟩ := Option.bind_eq_some_iff.mp read
    obtain ⟨text, gotText, read⟩ := Option.bind_eq_some_iff.mp read
    obtain ⟨category, gotCategory, read⟩ := Option.bind_eq_some_iff.mp read
    obtain ⟨depth, gotDepth, read⟩ := Option.bind_eq_some_iff.mp read
    cases read
    exact ⟨once, gotCode, gotText, gotCategory, gotDepth⟩
  · cases read

structure Told (m : Message) (json : Json) : Prop where
  code : TellsNat m.code.toNat (told fieldNames "code" json)
  text : told fieldNames "text" json = [.ofText m.text]
  category : TellsNat m.category.code (told fieldNames "category" json)
  depth : told fieldNames "depth" json = [] ∧ m.depth = 0
    ∨ TellsNat m.depth.toNat (told fieldNames "depth" json)

theorem told_of_ofJson? {m : Message} {json : Json} (read : ofJson? json = some m) :
    m.Told json := by
  obtain ⟨once, code, text, category, depth⟩ := ofJson?_told read
  have once {name : String} (listed : name ∈ fieldNames) := once name listed
  refine ⟨?_, ?_, ?_, ?_⟩
  · exact tellsNat_of_required saysNat_of_uint32? (once (by decide)) code
  · exact eq_ofText_of_required (once (by decide)) text
  · exact tellsNat_of_required Category.saysNat_of_ofJson? (once (by decide)) category
  · exact tellsNat_of_defaulted saysNat_of_uint64? (once (by decide)) depth

def demands : List Demand :=
  [{ name := "code", isRequired := true, bound := some UInt32.size },
    { name := "text", isRequired := true },
    { name := "category", isRequired := true, bound := some 4 },
    { name := "depth", bound := some UInt64.size }]

theorem not_fault_of_ofJson? {m : Message} {json : Json} (read : ofJson? json = some m) :
    ¬ Fault demands json := by
  obtain ⟨once, code, text, category, depth⟩ := ofJson?_told read
  have once {name : String} (listed : name ∈ fieldNames) := once name listed
  refine Json.not_fault_of_met ?_
  unfold demands
  simp only [List.forall_mem_cons]
  refine ⟨?_, ?_, ?_, ?_, List.forall_mem_nil _⟩
  · exact Demand.met_of_required (guards_uint32 rfl) (once (by decide)) code
  · exact Demand.met_of_required (Demand.guards_of_unbounded rfl rfl) (once (by decide)) text
  · exact Demand.met_of_required (Category.guards rfl) (once (by decide)) category
  · exact Demand.met_of_defaulted (guards_uint64 rfl) rfl (once (by decide)) depth

end Message

namespace Diagnostic

theorem ofJson?_told {d : Diagnostic} {json : Json} (read : ofJson? json = some d) :
    (∀ name ∈ fieldNames, (told fieldNames name json).length ≤ 1)
      ∧ optional Json.text? (told fieldNames "file" json).head? = some d.file
      ∧ defaulted 0 uint32? (told fieldNames "start" json).head? = some d.start
      ∧ defaulted 0 uint32? (told fieldNames "length" json).head? = some d.length
      ∧ required Category.ofJson? (told fieldNames "category" json).head? = some d.category
      ∧ required uint32? (told fieldNames "code" json).head? = some d.code
      ∧ required (Json.list? Message.ofJson?) (told fieldNames "chain" json).head?
        = some d.chain := by
  unfold ofJson? at read
  split at read
  · next file start length category code chain fields =>
    obtain ⟨found, once⟩ := Json.fields?_told (by decide) fields
    cases found
    obtain ⟨file, gotFile, read⟩ := Option.bind_eq_some_iff.mp read
    obtain ⟨start, gotStart, read⟩ := Option.bind_eq_some_iff.mp read
    obtain ⟨length, gotLength, read⟩ := Option.bind_eq_some_iff.mp read
    obtain ⟨category, gotCategory, read⟩ := Option.bind_eq_some_iff.mp read
    obtain ⟨code, gotCode, read⟩ := Option.bind_eq_some_iff.mp read
    obtain ⟨chain, gotChain, read⟩ := Option.bind_eq_some_iff.mp read
    cases read
    exact ⟨once, gotFile, gotStart, gotLength, gotCategory, gotCode, gotChain⟩
  · cases read

-- A diagnostic as a document tells it, with one message for each element of its chain.
structure Told (d : Diagnostic) (json : Json) : Prop where
  file : told fieldNames "file" json = [] ∧ d.file = none
    ∨ told fieldNames "file" json = [fileJson d.file]
  start : told fieldNames "start" json = [] ∧ d.start = 0
    ∨ TellsNat d.start.toNat (told fieldNames "start" json)
  length : told fieldNames "length" json = [] ∧ d.length = 0
    ∨ TellsNat d.length.toNat (told fieldNames "length" json)
  category : TellsNat d.category.code (told fieldNames "category" json)
  code : TellsNat d.code.toNat (told fieldNames "code" json)
  chain : TellsEach Message.Told d.chain (told fieldNames "chain" json)

theorem file_told {file : Option String} {said : List Json} (once : said.length ≤ 1)
    (read : optional Json.text? said.head? = some file) :
    said = [] ∧ file = none ∨ said = [fileJson file] := by
  match said, once with
  | [], _ => exact .inl ⟨rfl, (Option.some.inj read).symm⟩
  | [json], _ =>
    refine .inr ?_
    change optional Json.text? (some json) = some file at read
    unfold Json.Field.optional at read
    split at read
    · next missing => cases missing
    · next same =>
      cases same
      cases read
      rfl
    · next same =>
      cases same
      obtain ⟨text, got, rfl⟩ := Option.map_eq_some_iff.mp read
      rw [Json.eq_ofText_of_text? got]
      rfl

theorem chain_told {chain : List Message} {said : List Json} (once : said.length ≤ 1)
    (read : required (Json.list? Message.ofJson?) said.head? = some chain) :
    TellsEach (fun m form => Message.ofJson? form = some m) chain said := by
  obtain ⟨json, rfl, got⟩ := required_told once read
  exact Json.tellsEach_of_list? got

theorem told_of_ofJson? {d : Diagnostic} {json : Json} (read : ofJson? json = some d) :
    d.Told json := by
  obtain ⟨once, file, start, length, category, code, chain⟩ := ofJson?_told read
  have once {name : String} (listed : name ∈ fieldNames) := once name listed
  refine ⟨?_, ?_, ?_, ?_, ?_, ?_⟩
  · exact file_told (once (by decide)) file
  · exact tellsNat_of_defaulted saysNat_of_uint32? (once (by decide)) start
  · exact tellsNat_of_defaulted saysNat_of_uint32? (once (by decide)) length
  · exact tellsNat_of_required Category.saysNat_of_ofJson? (once (by decide)) category
  · exact tellsNat_of_required saysNat_of_uint32? (once (by decide)) code
  · exact (chain_told (once (by decide)) chain).mono fun _ _ => Message.told_of_ofJson?

def demands : List Demand :=
  [{ name := "file", takesNull := true },
    { name := "start", bound := some UInt32.size },
    { name := "length", bound := some UInt32.size },
    { name := "category", isRequired := true, bound := some 4 },
    { name := "code", isRequired := true, bound := some UInt32.size },
    { name := "chain", isRequired := true }]

inductive Faulty (json : Json) : Prop
  | own (fault : Fault demands json)
  | inChain {forms : List Json} {form : Json} (said : .array forms ∈ told fieldNames "chain" json)
      (listed : form ∈ forms) (fault : Fault Message.demands form)

theorem not_fault_of_ofJson? {d : Diagnostic} {json : Json} (read : ofJson? json = some d) :
    ¬ Fault demands json := by
  obtain ⟨once, file, start, length, category, code, chain⟩ := ofJson?_told read
  have once {name : String} (listed : name ∈ fieldNames) := once name listed
  refine Json.not_fault_of_met ?_
  unfold demands
  simp only [List.forall_mem_cons]
  refine ⟨?_, ?_, ?_, ?_, ?_, ?_, List.forall_mem_nil _⟩
  · exact Demand.met_of_once rfl rfl rfl (once (by decide))
  · exact Demand.met_of_defaulted (guards_uint32 rfl) rfl (once (by decide)) start
  · exact Demand.met_of_defaulted (guards_uint32 rfl) rfl (once (by decide)) length
  · exact Demand.met_of_required (Category.guards rfl) (once (by decide)) category
  · exact Demand.met_of_required (guards_uint32 rfl) (once (by decide)) code
  · exact Demand.met_of_required (Demand.guards_of_unbounded rfl rfl) (once (by decide)) chain

theorem not_faulty_of_ofJson? {d : Diagnostic} {json : Json} (read : ofJson? json = some d) :
    ¬ Faulty json := by
  intro faulty
  cases faulty with
  | own fault => exact not_fault_of_ofJson? read fault
  | inChain said listed fault =>
    obtain ⟨once, -, -, -, -, -, chain⟩ := ofJson?_told read
    obtain ⟨m, got⟩ := (chain_told (once _ (by decide)) chain).exists_item said listed
    exact Message.not_fault_of_ofJson? got fault

end Diagnostic

namespace Snapshot

theorem ofJson?_told {program : Snapshot} {json : Json} (read : ofJson? json = some program) :
    ∀ phase : Phase, (told fieldNames phase.name json).length ≤ 1
      ∧ defaulted [] (Json.list? Diagnostic.ofJson?) (told fieldNames phase.name json).head?
        = some (program.diagnostics phase) := by
  unfold ofJson? at read
  split at read
  · next options global syntactic semantic sources fields =>
    obtain ⟨found, once⟩ := Json.fields?_told (by decide) fields
    cases found
    obtain ⟨options, gotOptions, read⟩ := Option.bind_eq_some_iff.mp read
    obtain ⟨global, gotGlobal, read⟩ := Option.bind_eq_some_iff.mp read
    obtain ⟨syntactic, gotSyntactic, read⟩ := Option.bind_eq_some_iff.mp read
    obtain ⟨semantic, gotSemantic, read⟩ := Option.bind_eq_some_iff.mp read
    obtain ⟨sources, gotSources, read⟩ := Option.bind_eq_some_iff.mp read
    cases read
    intro phase
    cases phase with
    | options => exact ⟨once _ (by decide), gotOptions⟩
    | global => exact ⟨once _ (by decide), gotGlobal⟩
    | syntactic => exact ⟨once _ (by decide), gotSyntactic⟩
    | semantic => exact ⟨once _ (by decide), gotSemantic⟩
  · cases read

def Told (program : Snapshot) (json : Json) : Prop :=
  ∀ phase : Phase, told fieldNames phase.name json = [] ∧ program.diagnostics phase = []
    ∨ TellsEach Diagnostic.Told (program.diagnostics phase) (told fieldNames phase.name json)

-- Some element of some list is faulty, however late it comes.
def Faulty (json : Json) : Prop :=
  ∃ (phase : Phase) (forms : List Json) (form : Json),
    .array forms ∈ told fieldNames phase.name json ∧ form ∈ forms ∧ Diagnostic.Faulty form

theorem list_told {program : Snapshot} {json : Json} (read : ofJson? json = some program)
    (phase : Phase) : told fieldNames phase.name json = [] ∧ program.diagnostics phase = []
      ∨ TellsEach (fun d form => Diagnostic.ofJson? form = some d) (program.diagnostics phase)
        (told fieldNames phase.name json) := by
  obtain ⟨once, got⟩ := ofJson?_told read phase
  rcases defaulted_told once got with missing | ⟨value, one, list⟩
  · exact .inl missing
  · rw [one]
    exact .inr (Json.tellsEach_of_list? list)

theorem told_of_ofJson? {program : Snapshot} {json : Json} (read : ofJson? json = some program) :
    program.Told json := by
  intro phase
  rcases list_told read phase with missing | each
  · exact .inl missing
  · exact .inr (each.mono fun _ _ => Diagnostic.told_of_ofJson?)

theorem ofJson?_eq_none_of_faulty {json : Json} (faulty : Faulty json) : ofJson? json = none := by
  obtain ⟨phase, forms, form, said, listed, fault⟩ := faulty
  cases read : ofJson? json with
  | none => rfl
  | some program =>
    rcases list_told read phase with ⟨silent, -⟩ | each
    · rw [silent] at said
      cases said
    · obtain ⟨d, got⟩ := each.exists_item said listed
      exact absurd fault (Diagnostic.not_faulty_of_ofJson? got)

end Snapshot

namespace Bridge

def Delivers (output : Bytes) (members : List Json.Member) : Prop :=
  Json.read? (Utf8.symbols output) = some (.object members)

-- Whoever has to do with an answer of these bytes is told that it cannot be read, and nothing else.
structure Refused (output : Bytes) : Prop where
  unread : Snapshot.read? (Utf8.symbols output) = none
  unanswered : ∀ complaint,
    answer { ending := .exited 0, output, complaint } = .error .unreadableAnswer
  unasked : ∀ host ready left tools question complaint,
    prepare host question = .ok ready →
    ready.start (invocation tools question)
      = (left, .ok { ending := .exited 0, output, complaint }) →
    ask host tools question = (left, .error .unreadableAnswer)
  unchecked : ∀ host ready left tools complaint (workspace : Workspace) (options : CheckOptions),
    prepare host (workspace.question options.compiler) = .ok ready →
    ready.start (invocation tools (workspace.question options.compiler))
      = (left, .ok { ending := .exited 0, output, complaint }) →
    workspace.check (checker host tools) options = .error .unreadableAnswer
  unreported : ∀ host settings inputs workspace complaint elapsed,
    Run.Reaches host settings inputs
      (.ended workspace { ending := .exited 0, output, complaint }) →
    (Run.ofSettings host elapsed inputs settings).2.account = (some .fault, "")

theorem refused_of_unread {output : Bytes}
    (unread : Snapshot.read? (Utf8.symbols output) = none) : Refused output := by
  have unanswered (complaint : Bytes) :
      answer { ending := .exited 0, output, complaint } = .error .unreadableAnswer :=
    answer_unreadable rfl unread
  have unasked {host ready left : Host} {tools : Toolchain} {question : Question}
      {complaint : Bytes} (installed : prepare host question = .ok ready)
      (started : ready.start (invocation tools question)
        = (left, .ok { ending := .exited 0, output, complaint })) :
      ask host tools question = (left, .error .unreadableAnswer) := by
    rw [ask_ended installed started, unanswered]
  refine ⟨unread, unanswered, fun _ _ _ _ _ _ => unasked, ?_, ?_⟩
  · intro host ready left tools complaint workspace options installed started
    unfold Workspace.check checker
    rw [unasked installed started]
  · intro host settings inputs workspace complaint elapsed reached
    exact Run.account_of_breaks elapsed (.unreadable reached rfl unread)

-- A document is taken with all that is in its lists, or with nothing. Blanks, the spelling of strings
-- and members of other names make no difference.
theorem answer_whole_or_refused (members : List Json.Member) :
    (∀ text, Json.Document (.object members) text.toList → Delivers (bytesOf text) members)
      ∧ (Snapshot.Faulty (.object members) →
        ∀ output, Delivers output members → Refused output)
      ∧ ∀ output program, Delivers output members →
        Snapshot.read? (Utf8.symbols output) = some program → program.Told (.object members) := by
  refine ⟨?_, ?_, ?_⟩
  · intro text document
    rw [Delivers, Utf8.symbols_bytesOf, symbolsOf]
    exact Json.read?_document document
  · intro faulty output delivers
    refine refused_of_unread ?_
    rw [Snapshot.read?, delivers, Option.bind_some]
    exact Snapshot.ofJson?_eq_none_of_faulty faulty
  · intro output program delivers read
    rw [Snapshot.read?, delivers, Option.bind_some] at read
    exact Snapshot.told_of_ofJson? read

def lastMessage (category : Nat) : Json :=
  .ofMembers [("text", .ofText "!"), ("code", .ofNat 1), ("category", .ofNat category)]

def lastDiagnostic (category : Nat) : Json :=
  .ofMembers [("category", .ofNat 1), ("code", .ofNat 1), ("chain", .array [
    .ofMembers [("text", .ofText "?"), ("code", .ofNat 1), ("category", .ofNat 1)],
    lastMessage category])]

def lastCategory (category : Nat) : List Json.Member :=
  [(symbolsOf "extra", .null), (symbolsOf "global", .array [lastDiagnostic category])]

def lastWarned : Snapshot where
  global := [{
    category := .error
    code := 1
    chain := [{ code := 1, text := "?", category := .error },
      { code := 1, text := "!", category := .warning }] }]

theorem faulty_lastCategory : Snapshot.Faulty (.object (lastCategory 4)) := by
  have listed : ({ name := "category", isRequired := true, bound := some 4 } : Demand)
      ∈ Message.demands := by decide
  have outside : ¬ Json.Number.IsBelow ⟨false, [4], [], none⟩ 4 := fun below =>
    absurd below.below (by decide)
  have fault : Fault Message.demands (lastMessage 4) :=
    .misranged listed rfl (List.mem_singleton.mpr rfl) outside
  have late : Diagnostic.Faulty (lastDiagnostic 4) :=
    .inChain (List.mem_singleton.mpr rfl) (List.mem_cons_of_mem _ (List.mem_singleton.mpr rfl)) fault
  exact ⟨.global, _, _, List.mem_singleton.mpr rfl, List.mem_singleton.mpr rfl, late⟩

theorem last_category_decides :
    Refused (bytesOf (Json.object (lastCategory 4)).compact)
      ∧ Snapshot.read? (Utf8.symbols (bytesOf (Json.object (lastCategory 0)).compact))
        = some lastWarned
      ∧ lastWarned.Told (.object (lastCategory 0)) := by
  obtain ⟨badly, refused, -⟩ := answer_whole_or_refused (lastCategory 4)
  obtain ⟨well, -, told⟩ := answer_whole_or_refused (lastCategory 0)
  have faulty := badly _ (Json.document_compact (by decide))
  have sound := well _ (Json.document_compact (by decide))
  have read : Snapshot.read? (Utf8.symbols (bytesOf (Json.object (lastCategory 0)).compact))
      = some lastWarned := by
    rw [Snapshot.read?, sound]
    rfl
  exact ⟨refused faulty_lastCategory _ faulty, read, told _ _ sound read⟩

end Bridge

end WatchfaceCheck
