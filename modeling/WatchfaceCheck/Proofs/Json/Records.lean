import Mathlib.Data.List.Forall2
import Mathlib.Data.List.Perm.Basic
import WatchfaceCheck.Dictionary
import WatchfaceCheck.Json.Record
import WatchfaceCheck.Proofs.Json.Printing
namespace WatchfaceCheck.Json

open Text

variable {α β : Type}

theorem mapM_eq_some {read? : β → Option α} {Writes : α → β → Prop}
    (read : ∀ item form, Writes item form → read? form = some item) {items : List α}
    {forms : List β} (written : List.Forall₂ Writes items forms) :
    forms.mapM read? = some items := by
  induction written with
  | nil => rfl
  | @cons item form _ _ one _ ih =>
    rw [List.mapM_cons, read item form one, ih]
    rfl

theorem mapM_map {read? : β → Option α} {write : α → β}
    (read : ∀ item, read? (write item) = some item) (items : List α) :
    (items.map write).mapM read? = some items := by
  have written : List.Forall₂ (fun item form => form = write item) items (items.map write) :=
    List.forall₂_map_right_iff.mpr (List.forall₂_same.mpr fun _ _ => rfl)
  exact mapM_eq_some (fun item _ same => same ▸ read item) written

theorem whole?_symbolsOf (text : String) : whole? (symbolsOf text) = some text := by
  have each : (text.toList.map some).mapM id = some text.toList := mapM_map (fun _ => by rfl) _
  rw [whole?, symbolsOf, each, Option.map_some, String.ofList_toList]

theorem symbolsOf_inj {a b : String} : symbolsOf a = symbolsOf b ↔ a = b := by
  constructor
  · intro same
    have texts := congrArg whole? same
    rwa [whole?_symbolsOf, whole?_symbolsOf, Option.some.injEq] at texts
  · rintro rfl
    rfl

theorem text?_ofText (text : String) : text? (ofText text) = some text := whole?_symbolsOf text

theorem natBelow?_ofNat {bound n : Nat} (below : n < bound) : natBelow? bound (ofNat n) = some n := by
  have value : natBelow? bound (ofNat n) = (some (Number.decimal (digitsOf n))).filter (· < bound) :=
    rfl
  rw [value, decimal_digitsOf, Option.filter_some, if_pos (decide_eq_true below)]

def WritesEach (Writes : α → Json → Prop) (items : List α) (json : Json) : Prop :=
  ∃ jsons, json = .array jsons ∧ List.Forall₂ Writes items jsons

theorem list?_written {item? : Json → Option α} {Writes : α → Json → Prop}
    (read : ∀ item json, Writes item json → item? json = some item) {items : List α} {json : Json}
    (written : WritesEach Writes items json) : list? item? json = some items := by
  obtain ⟨jsons, rfl, each⟩ := written
  exact mapM_eq_some read each

theorem members?_ofMembers (members : List (String × Json)) :
    members? (ofMembers members) = some members :=
  mapM_map (fun member => by rw [whole?_symbolsOf]; rfl) members

theorem fields?_ofMembers (names : List String) (members : List (String × Json)) :
    fields? names (ofMembers members)
      = if names.all fun name => occurrences name members ≤ 1 then
          some (names.map fun name => members.lookup name)
        else none := by
  have read := members?_ofMembers members
  unfold ofMembers at read ⊢
  simp only [fields?, read]

structure Slot where
  name : String
  Admits : Json → Prop
  Omissible : Prop

inductive Fills : List Slot → List (String × Json) → Prop where
  | nil : Fills [] []
  | written {slot : Slot} {slots : List Slot} {value : Json} {fields : List (String × Json)} :
      slot.Admits value → Fills slots fields → Fills (slot :: slots) ((slot.name, value) :: fields)
  | omitted {slot : Slot} {slots : List Slot} {fields : List (String × Json)} :
      slot.Omissible → Fills slots fields → Fills (slot :: slots) fields

-- The fields in any order, with members of other names among them.
def WritesRecord (slots : List Slot) (json : Json) : Prop :=
  ∃ fields others members, Fills slots fields
    ∧ (∀ member ∈ others, member.1 ∉ slots.map Slot.name)
    ∧ members.Perm (fields ++ others) ∧ json = ofMembers members

def Slot.Finds (slot : Slot) : Option Json → Prop
  | none => slot.Omissible
  | some value => slot.Admits value

def under (name : String) (members : List (String × Json)) : List (String × Json) :=
  members.filter fun member => member.1 == name

theorem under_eq_nil {name : String} {members : List (String × Json)}
    (absent : ∀ member ∈ members, member.1 ≠ name) : under name members = [] :=
  List.filter_eq_nil_iff.mpr fun member listed => by simpa using absent member listed

theorem under_same (name : String) (value : Json) (members : List (String × Json)) :
    under name ((name, value) :: members) = (name, value) :: under name members :=
  List.filter_cons_of_pos (beq_self_eq_true name)

theorem under_other {name other : String} (different : other ≠ name) (value : Json)
    (members : List (String × Json)) :
    under name ((other, value) :: members) = under name members :=
  List.filter_cons_of_neg (by simpa using different)

theorem lookup_eq_under (name : String) (members : List (String × Json)) :
    members.lookup name = (under name members).head?.map Prod.snd := by
  induction members with
  | nil => rfl
  | cons member others ih =>
    obtain ⟨other, value⟩ := member
    rw [Dictionary.lookup_entry]
    by_cases same : name = other
    · rw [if_pos same, ← same, under_same]
      rfl
    · rw [if_neg same, under_other (Ne.symm same), ih]

theorem name_of_fills {slots : List Slot} {fields : List (String × Json)}
    (fills : Fills slots fields) : ∀ field ∈ fields, field.1 ∈ slots.map Slot.name := by
  induction fills with
  | nil => simp
  | written _ _ ih =>
    intro field listed
    rcases List.mem_cons.mp listed with rfl | later
    · exact List.mem_cons_self
    · exact List.mem_cons_of_mem _ (ih field later)
  | omitted _ _ ih => exact fun field listed => List.mem_cons_of_mem _ (ih field listed)

theorem under_fresh {slots : List Slot} {fields : List (String × Json)}
    (fills : Fills slots fields) {name : String} (fresh : name ∉ slots.map Slot.name) :
    under name fields = [] :=
  under_eq_nil fun field held same => fresh (same ▸ name_of_fills fills field held)

theorem under_fills {slots : List Slot} {fields : List (String × Json)}
    (fills : Fills slots fields) (distinct : (slots.map Slot.name).Nodup) {slot : Slot}
    (listed : slot ∈ slots) : ∃ found : Option Json,
      slot.Finds found ∧ under slot.name fields = found.toList.map fun value => (slot.name, value) := by
  induction fills with
  | nil => cases listed
  | @written head slots value fields admitted others ih =>
    obtain ⟨fresh, distinct⟩ := List.nodup_cons.mp distinct
    rcases List.mem_cons.mp listed with rfl | later
    · refine ⟨some value, admitted, ?_⟩
      rw [under_same, under_fresh others fresh]
      rfl
    · have different : head.name ≠ slot.name := fun same =>
        fresh (same ▸ List.mem_map_of_mem later)
      rw [under_other different]
      exact ih distinct later
  | omitted left others ih =>
    obtain ⟨fresh, distinct⟩ := List.nodup_cons.mp distinct
    rcases List.mem_cons.mp listed with rfl | later
    · exact ⟨none, left, under_fresh others fresh⟩
    · exact ih distinct later

-- Neither the order of the members nor members of other names matter.
theorem under_record {slots : List Slot} {fields others members : List (String × Json)}
    (fills : Fills slots fields) (distinct : (slots.map Slot.name).Nodup)
    (unknown : ∀ member ∈ others, member.1 ∉ slots.map Slot.name)
    (mixed : members.Perm (fields ++ others)) {slot : Slot} (listed : slot ∈ slots) :
    ∃ found : Option Json,
      slot.Finds found ∧ under slot.name members = found.toList.map fun value => (slot.name, value) := by
  obtain ⟨found, finds, told⟩ := under_fills fills distinct listed
  have absent : under slot.name others = [] := under_eq_nil fun member held same =>
    unknown member held (same ▸ List.mem_map_of_mem listed)
  have same : (under slot.name members).Perm (found.toList.map fun value => (slot.name, value)) := by
    have kept := mixed.filter fun member => member.1 == slot.name
    rw [List.filter_append] at kept
    change (under slot.name members).Perm (under slot.name fields ++ under slot.name others) at kept
    rwa [told, absent, List.append_nil] at kept
  refine ⟨found, finds, ?_⟩
  cases found with
  | none => exact same.eq_nil
  | some value => exact List.perm_singleton.mp same

theorem fields?_record {slots : List Slot} (distinct : (slots.map Slot.name).Nodup) {json : Json}
    (written : WritesRecord slots json) : ∃ found,
      fields? (slots.map Slot.name) json = some found ∧ List.Forall₂ Slot.Finds slots found := by
  obtain ⟨fields, others, members, fills, unknown, mixed, rfl⟩ := written
  have each {slot : Slot} (listed : slot ∈ slots) :
      occurrences slot.name members ≤ 1 ∧ slot.Finds (members.lookup slot.name) := by
    obtain ⟨found, finds, told⟩ := under_record fills distinct unknown mixed listed
    have count : occurrences slot.name members = (under slot.name members).length := rfl
    rw [count, lookup_eq_under, told]
    cases found with
    | none => exact ⟨Nat.zero_le 1, finds⟩
    | some value => exact ⟨Nat.le_refl 1, finds⟩
  refine ⟨slots.map fun slot => members.lookup slot.name, ?_, ?_⟩
  · have once : ((slots.map Slot.name).all fun name => occurrences name members ≤ 1) = true := by
      rw [List.all_map, List.all_eq_true]
      exact fun slot listed => decide_eq_true (each listed).1
    rw [fields?_ofMembers, if_pos once, List.map_map]
    rfl
  · rw [List.forall₂_map_right_iff, List.forall₂_same]
    exact fun slot listed => (each listed).2

namespace Field

variable {slot : Slot} {found : Option Json} {value? : Json → Option α} {value : α}

theorem required_eq (finds : slot.Finds found) (never : ¬ slot.Omissible)
    (read : ∀ json, slot.Admits json → value? json = some value) :
    required value? found = some value := by
  cases found with
  | none => exact absurd finds never
  | some json => exact read json finds

theorem defaulted_eq (absent : α) (finds : slot.Finds found) (same : slot.Omissible → value = absent)
    (read : ∀ json, slot.Admits json → value? json = some value) :
    defaulted absent value? found = some value := by
  cases found with
  | none => exact congrArg some (same finds).symm
  | some json => exact read json finds

end Field

def Printable (Admits : Json → Prop) : Prop := ∃ json, Admits json ∧ Token.Sound json.tokens

theorem printable_ofNat (n : Nat) : Printable (· = ofNat n) := ⟨_, rfl, sound_ofNat n⟩

theorem printable_ofText (text : String) : Printable (· = ofText text) := ⟨_, rfl, sound_ofText text⟩

theorem printable_each {Writes : α → Json → Prop} {items : List α}
    (each : ∀ item ∈ items, Printable (Writes item)) : Printable (WritesEach Writes items) := by
  have written : ∃ jsons, List.Forall₂ Writes items jsons
      ∧ ∀ json ∈ jsons, Token.Sound json.tokens := by
    induction items with
    | nil => exact ⟨[], .nil, by simp⟩
    | cons item others ih =>
      obtain ⟨json, writes, sound⟩ := each item (.head _)
      obtain ⟨jsons, more, sounds⟩ := ih fun other listed => each other (.tail _ listed)
      exact ⟨json :: jsons, .cons writes more, List.forall_mem_cons.mpr ⟨sound, sounds⟩⟩
  obtain ⟨jsons, writes, sounds⟩ := written
  exact ⟨.array jsons, ⟨jsons, rfl, writes⟩, sound_array sounds⟩

theorem printable_record {slots : List Slot} (each : ∀ slot ∈ slots, Printable slot.Admits) :
    Printable (WritesRecord slots) := by
  have filled : ∃ fields, Fills slots fields ∧ ∀ field ∈ fields, Token.Sound field.2.tokens := by
    induction slots with
    | nil => exact ⟨[], .nil, by simp⟩
    | cons slot others ih =>
      obtain ⟨value, admitted, sound⟩ := each slot (.head _)
      obtain ⟨fields, fills, sounds⟩ := ih fun other listed => each other (.tail _ listed)
      exact ⟨(slot.name, value) :: fields, .written admitted fills,
        List.forall_mem_cons.mpr ⟨sound, sounds⟩⟩
  obtain ⟨fields, fills, sounds⟩ := filled
  have written : WritesRecord slots (ofMembers fields) :=
    ⟨fields, [], fields, fills, by simp, by simp, rfl⟩
  exact ⟨ofMembers fields, written, sound_ofMembers sounds⟩

end WatchfaceCheck.Json
