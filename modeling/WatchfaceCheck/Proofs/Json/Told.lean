import Mathlib.Data.List.Nodup
import WatchfaceCheck.Proofs.Json.Records
namespace WatchfaceCheck.Json

open Text

variable {α : Type}

-- All that is said under a name: by the members of that name, or at its place in an array.
def told (names : List String) (name : String) : Json → List Json
  | .object members =>
    (members.filter fun member => member.1 == symbolsOf name).map Prod.snd
  | .array items => items[names.idxOf name]?.toList
  | _ => []

theorem whole?_eq_some_iff {symbols : List Symbol} {text : String} :
    whole? symbols = some text ↔ symbols = symbolsOf text := by
  constructor
  · intro whole
    obtain ⟨chars, read, rfl⟩ := Option.map_eq_some_iff.mp whole
    rw [symbolsOf, String.toList_ofList]
    clear whole
    induction symbols generalizing chars with
    | nil =>
      cases read
      rfl
    | cons symbol rest ih =>
      rw [List.mapM_cons] at read
      obtain ⟨c, rfl, later⟩ := Option.bind_eq_some_iff.mp read
      obtain ⟨others, got, same⟩ := Option.bind_eq_some_iff.mp later
      cases same
      rw [ih others got]
      rfl
  · rintro rfl
    exact whole?_symbolsOf text

theorem forall₂_of_mapM {β : Type} {read? : β → Option α} {forms : List β} {items : List α}
    (read : forms.mapM read? = some items) :
    List.Forall₂ (fun item form => read? form = some item) items forms := by
  induction forms generalizing items with
  | nil =>
    cases read
    exact .nil
  | cons form rest ih =>
    rw [List.mapM_cons] at read
    obtain ⟨item, one, later⟩ := Option.bind_eq_some_iff.mp read
    obtain ⟨others, got, same⟩ := Option.bind_eq_some_iff.mp later
    cases same
    exact .cons one (ih got)

theorem under_told {members : List Member} {named : List (String × Json)} (names : List String)
    (name : String) (read : members? (.object members) = some named) :
    (under name named).map Prod.snd = told names name (.object members) := by
  have each := forall₂_of_mapM read
  unfold told
  dsimp only
  clear read
  induction each with
  | nil => rfl
  | @cons entry member _ _ one _ ih =>
    obtain ⟨text, whole, rfl⟩ := Option.map_eq_some_iff.mp one
    have spelt := whole?_eq_some_iff.mp whole
    by_cases same : text = name
    · subst same
      rw [under_same, List.filter_cons_of_pos (by simp [spelt]), List.map_cons, List.map_cons, ih]
    · have apart : member.1 ≠ symbolsOf name := by
        intro other
        rw [spelt] at other
        have back := whole?_symbolsOf text
        rw [other, whole?_symbolsOf] at back
        exact same (Option.some.inj back).symm
      rw [under_other same, List.filter_cons_of_neg (by simpa using apart), ih]

theorem array_told {names : List String} (distinct : names.Nodup) {items : List Json}
    (fits : items.length ≤ names.length) :
    items.map some ++ List.replicate (names.length - items.length) none
      = names.map fun name => (told names name (.array items)).head? := by
  apply List.ext_getElem?
  intro place
  rw [List.getElem?_map]
  by_cases known : place < names.length
  · have said : told names names[place] (.array items) = items[place]?.toList := by
      rw [told, distinct.idxOf_getElem place known]
    rw [List.getElem?_eq_getElem known, Option.map_some, said, List.getElem?_append,
      List.getElem?_map, List.getElem?_replicate, List.length_map]
    split
    · next within =>
      rw [List.getElem?_eq_getElem within]
      rfl
    · next beyond =>
      rw [if_pos (by omega), List.getElem?_eq_none (by omega)]
      rfl
  · rw [List.getElem?_eq_none (l := names) (by omega), List.getElem?_eq_none]
    · rfl
    · rw [List.length_append, List.length_map, List.length_replicate]
      omega

theorem fields?_told {names : List String} (distinct : names.Nodup) {json : Json}
    {found : List (Option Json)} (read : fields? names json = some found) :
    found = names.map (fun name => (told names name json).head?)
      ∧ ∀ name ∈ names, (told names name json).length ≤ 1 := by
  unfold fields? at read
  split at read
  · next items =>
    split at read
    · next fits =>
      cases read
      refine ⟨array_told distinct fits, fun name _ => ?_⟩
      rw [told]
      exact Option.length_toList_le
    · cases read
  · next other =>
    split at read
    · cases read
    · next named members =>
      split at read
      · next once =>
        cases read
        cases json with
        | object entries =>
          have said (name : String) := under_told names name members
          refine ⟨List.map_congr_left fun name _ => ?_, fun name listed => ?_⟩
          · rw [lookup_eq_under, ← said, List.head?_map]
          · have count := List.all_eq_true.mp once name listed
            rw [← said, List.length_map]
            exact of_decide_eq_true count
        | _ => cases members
      · cases read

-- A number that stands for a natural number below a bound. With a sign, a point or an exponent it
-- stands for none, whatever its value.
structure Number.IsBelow (n : Number) (bound : Nat) : Prop where
  unsigned : n.negative = false
  pointless : n.fraction = []
  plain : n.exponent = none
  below : Number.decimal n.whole < bound

theorem isBelow_of_nat? {n : Number} {value bound : Nat} (spelt : n.nat? = some value)
    (below : value < bound) : n.IsBelow bound := by
  unfold Number.nat? at spelt
  split at spelt
  · cases spelt
  · next plain =>
    cases spelt
    simp only [Bool.or_eq_true, not_or, Bool.not_eq_true, Bool.not_eq_false',
      List.isEmpty_iff, Option.isSome_eq_false_iff, Option.isNone_iff_eq_none] at plain
    exact ⟨plain.1.1, plain.1.2, plain.2, below⟩

def SaysNat (value : Nat) (json : Json) : Prop := ∃ n : Number, json = .number n ∧ n.nat? = some value

def TellsNat (value : Nat) (said : List Json) : Prop := ∃ json, said = [json] ∧ SaysNat value json

def TellsEach {β : Type} (Told : β → Json → Prop) (items : List β) (said : List Json) : Prop :=
  ∃ forms, said = [.array forms] ∧ List.Forall₂ Told items forms

theorem saysNat_of_natBelow? {bound value : Nat} {json : Json} (read : natBelow? bound json = some value) :
    SaysNat value json ∧ value < bound := by
  unfold natBelow? at read
  split at read
  · next n =>
    obtain ⟨spelt, below⟩ := Option.filter_eq_some_iff.mp read
    exact ⟨⟨n, rfl, spelt⟩, of_decide_eq_true below⟩
  · cases read

theorem tellsEach_of_list? {item? : Json → Option α} {items : List α} {json : Json}
    (read : list? item? json = some items) :
    TellsEach (fun item form => item? form = some item) items [json] := by
  unfold list? at read
  split at read
  · next forms => exact ⟨forms, rfl, forall₂_of_mapM read⟩
  · cases read

theorem TellsEach.mono {β : Type} {Told Told' : β → Json → Prop} {items : List β}
    {said : List Json} (tells : TellsEach Told items said)
    (weaker : ∀ item form, Told item form → Told' item form) : TellsEach Told' items said := by
  obtain ⟨forms, one, each⟩ := tells
  exact ⟨forms, one, each.imp weaker⟩

theorem TellsEach.exists_item {β : Type} {Told : β → Json → Prop} {items : List β}
    {said forms : List Json} {form : Json} (tells : TellsEach Told items said)
    (listed : .array forms ∈ said) (inside : form ∈ forms) : ∃ item, Told item form := by
  obtain ⟨others, rfl, each⟩ := tells
  cases List.mem_singleton.mp listed
  clear listed
  induction each with
  | nil => cases inside
  | @cons item first _ _ one _ ih =>
    rcases List.mem_cons.mp inside with rfl | later
    · exact ⟨item, one⟩
    · exact ih later

theorem eq_ofText_of_text? {text : String} {json : Json} (read : text? json = some text) :
    json = ofText text := by
  unfold text? at read
  split at read
  · rw [whole?_eq_some_iff.mp read, ofText]
  · cases read

namespace Field

variable {said : List Json} {value? : Json → Option α} {value absent : α}

theorem required_told (once : said.length ≤ 1) (read : required value? said.head? = some value) :
    ∃ json, said = [json] ∧ value? json = some value := by
  match said, once with
  | [], _ => cases read
  | [json], _ => exact ⟨json, rfl, read⟩

theorem defaulted_told (once : said.length ≤ 1)
    (read : defaulted absent value? said.head? = some value) :
    said = [] ∧ value = absent ∨ ∃ json, said = [json] ∧ value? json = some value := by
  match said, once with
  | [], _ => exact .inl ⟨rfl, (Option.some.inj read).symm⟩
  | [json], _ => exact .inr ⟨json, rfl, read⟩

end Field

structure Demand where
  name : String
  isRequired : Bool := false
  takesNull : Bool := false
  bound : Option Nat := none
deriving DecidableEq, Repr

inductive Fault (demands : List Demand) (json : Json) : Prop
  | lacking {demand : Demand} (listed : demand ∈ demands) (required : demand.isRequired = true)
      (absent : told (demands.map Demand.name) demand.name json = [])
  | repeated {demand : Demand} (listed : demand ∈ demands)
      (twice : 1 < (told (demands.map Demand.name) demand.name json).length)
  | misranged {demand : Demand} {bound : Nat} {n : Number} (listed : demand ∈ demands)
      (bounded : demand.bound = some bound)
      (said : .number n ∈ told (demands.map Demand.name) demand.name json)
      (outside : ¬ n.IsBelow bound)
  | null {demand : Demand} (listed : demand ∈ demands) (substantial : demand.takesNull = false)
      (said : .null ∈ told (demands.map Demand.name) demand.name json)

namespace Demand

variable {demand : Demand} {said : List Json} {value? : Json → Option α} {value absent : α}

structure Met (demand : Demand) (said : List Json) : Prop where
  once : said.length ≤ 1
  present : demand.isRequired = true → said ≠ []
  ranged : ∀ bound n, demand.bound = some bound → .number n ∈ said → n.IsBelow bound
  substantial : demand.takesNull = false → .null ∉ said

-- A reader takes neither a number nor a null that the demand excludes.
structure Guards (demand : Demand) (value? : Json → Option α) : Prop where
  ranged : ∀ bound n value, demand.bound = some bound → value? (.number n) = some value →
    n.IsBelow bound
  substantial : demand.takesNull = false → value? .null = none

theorem guards_of_saysNat {bound : Nat} (size : α → Nat) (bounded : demand.bound = some bound)
    (read : ∀ json value, value? json = some value → SaysNat (size value) json ∧ size value < bound) :
    demand.Guards value? := by
  constructor
  · intro other n value given got
    rw [bounded] at given
    cases given
    obtain ⟨⟨_, same, spelt⟩, below⟩ := read _ _ got
    cases same
    exact isBelow_of_nat? spelt below
  · intro _
    cases got : value? .null with
    | none => rfl
    | some value =>
      obtain ⟨⟨_, same, _⟩, _⟩ := read _ _ got
      cases same

theorem guards_of_unbounded (unbounded : demand.bound = none) (null : value? .null = none) :
    demand.Guards value? := by
  refine ⟨fun bound n value bounded => ?_, fun _ => null⟩
  rw [unbounded] at bounded
  cases bounded

theorem met_of_one {json : Json} (guards : demand.Guards value?) (one : said = [json])
    (read : value? json = some value) : demand.Met said := by
  subst one
  refine ⟨Nat.le_refl 1, fun _ => List.cons_ne_nil _ _, ?_, ?_⟩
  · intro bound n bounded listed
    obtain rfl := List.mem_singleton.mp listed
    exact guards.ranged bound n value bounded read
  · intro substantial listed
    obtain rfl := List.mem_singleton.mp listed
    rw [guards.substantial substantial] at read
    cases read

theorem met_of_none (dispensable : demand.isRequired = false) : demand.Met [] := by
  refine ⟨Nat.zero_le 1, fun required => ?_, fun _ _ _ listed => ?_, fun _ listed => ?_⟩
  · rw [dispensable] at required
    cases required
  · cases listed
  · cases listed

theorem met_of_once (dispensable : demand.isRequired = false) (unbounded : demand.bound = none)
    (nullable : demand.takesNull = true) (once : said.length ≤ 1) : demand.Met said := by
  refine ⟨once, fun required => ?_, fun bound n bounded => ?_, fun substantial => ?_⟩
  · rw [dispensable] at required
    cases required
  · rw [unbounded] at bounded
    cases bounded
  · rw [nullable] at substantial
    cases substantial

theorem met_of_required (guards : demand.Guards value?) (once : said.length ≤ 1)
    (read : Field.required value? said.head? = some value) : demand.Met said := by
  obtain ⟨json, one, got⟩ := Field.required_told once read
  exact met_of_one guards one got

theorem met_of_defaulted (guards : demand.Guards value?) (dispensable : demand.isRequired = false)
    (once : said.length ≤ 1) (read : Field.defaulted absent value? said.head? = some value) :
    demand.Met said := by
  rcases Field.defaulted_told once read with ⟨rfl, -⟩ | ⟨json, one, got⟩
  · exact met_of_none dispensable
  · exact met_of_one guards one got

end Demand

theorem not_fault_of_met {demands : List Demand} {json : Json} (met : ∀ demand ∈ demands,
    demand.Met (told (demands.map Demand.name) demand.name json)) : ¬ Fault demands json := by
  intro fault
  cases fault with
  | lacking listed required absent => exact (met _ listed).present required absent
  | repeated listed twice => exact absurd (met _ listed).once (Nat.not_le_of_lt twice)
  | misranged listed bounded said outside => exact outside ((met _ listed).ranged _ _ bounded said)
  | null listed substantial said => exact (met _ listed).substantial substantial said

end WatchfaceCheck.Json
