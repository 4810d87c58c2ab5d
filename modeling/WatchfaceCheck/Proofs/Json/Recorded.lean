import WatchfaceCheck.Proofs.Json.Told
namespace WatchfaceCheck.Json

open Text

variable {α : Type}

-- What may be a record of these names: an object whose own names are texts, whatever they are, or an
-- array that is not longer than the record.
inductive IsRecord (names : List String) : Json → Prop
  | object {members : List Member} (named : ∀ member ∈ members, ∃ name, member.1 = symbolsOf name) :
    IsRecord names (.object members)
  | array {items : List Json} (fits : items.length ≤ names.length) : IsRecord names (.array items)

theorem exists_ofMembers {members : List Member}
    (named : ∀ member ∈ members, ∃ name, member.1 = symbolsOf name) :
    ∃ entries, Json.object members = ofMembers entries := by
  induction members with
  | nil => exact ⟨[], rfl⟩
  | cons member others ih =>
    obtain ⟨⟨name, spelt⟩, later⟩ := List.forall_mem_cons.mp named
    obtain ⟨entries, same⟩ := ih later
    refine ⟨(name, member.2) :: entries, ?_⟩
    rw [ofMembers, Json.object.injEq] at same ⊢
    rw [List.map_cons, ← same, ← spelt]

theorem named_of_members? {members : List Member} {named : List (String × Json)}
    (read : members? (.object members) = some named) :
    ∀ member ∈ members, ∃ name, member.1 = symbolsOf name := by
  have each := forall₂_of_mapM read
  clear read
  induction each with
  | nil => exact List.forall_mem_nil _
  | cons one _ ih =>
    obtain ⟨name, whole, -⟩ := Option.map_eq_some_iff.mp one
    exact List.forall_mem_cons.mpr ⟨⟨name, whole?_eq_some_iff.mp whole⟩, ih⟩

theorem isRecord_of_fields? {names : List String} {json : Json} {found : List (Option Json)}
    (read : fields? names json = some found) : IsRecord names json := by
  unfold fields? at read
  split at read
  · split at read
    · next fits => exact .array fits
    · cases read
  · split at read
    · cases read
    · next named members =>
      cases json with
      | object entries => exact .object (named_of_members? members)
      | _ => cases members

theorem fields?_eq_some_iff {names : List String} (distinct : names.Nodup) {json : Json}
    {found : List (Option Json)} : fields? names json = some found
      ↔ IsRecord names json ∧ (∀ name ∈ names, (told names name json).length ≤ 1)
        ∧ found = names.map fun name => (told names name json).head? := by
  constructor
  · intro read
    obtain ⟨same, once⟩ := fields?_told distinct read
    exact ⟨isRecord_of_fields? read, once, same⟩
  · rintro ⟨record, once, rfl⟩
    cases record with
    | array fits =>
      rw [← array_told distinct fits]
      exact if_pos fits
    | object named =>
      obtain ⟨entries, same⟩ := exists_ofMembers named
      rw [same] at once ⊢
      have said (name : String) := under_told names name (members?_ofMembers entries)
      have single : (names.all fun name => occurrences name entries ≤ 1) = true := by
        rw [List.all_eq_true]
        intro name listed
        have count := once name listed
        rw [ofMembers, ← said, List.length_map] at count
        exact decide_eq_true count
      rw [fields?_ofMembers, if_pos single]
      refine congrArg some (List.map_congr_left fun name _ => ?_)
      rw [lookup_eq_under, ofMembers, ← said, List.head?_map]

def TellsOr (absent : α) (Says : α → Json → Prop) (value : α) (said : List Json) : Prop :=
  said = [] ∧ value = absent ∨ ∃ json, said = [json] ∧ Says value json

def TellsOption (Says : α → Json → Prop) : Option α → List Json → Prop
  | none, said => said = [] ∨ said = [.null]
  | some value, said => ∃ json, said = [json] ∧ Says value json

section

variable {value? : Json → Option α} {Says : α → Json → Prop}

theorem list?_iff (reads : ∀ {json value}, value? json = some value ↔ Says value json) {json : Json}
    {items : List α} : list? value? json = some items ↔ WritesEach Says items json := by
  constructor
  · intro read
    obtain ⟨forms, one, each⟩ := tellsEach_of_list? read
    exact ⟨forms, List.singleton_inj.mp one, each.imp fun _ _ => reads.mp⟩
  · exact list?_written fun _ _ written => reads.mpr written

namespace Field

theorem optional_of_ne {json : Json} (given : json ≠ .null) :
    optional value? (some json) = (value? json).map some := by
  unfold optional
  split
  · next missing => cases missing
  · next same =>
    cases same
    exact absurd rfl given
  · next same =>
    cases same
    rfl

variable (reads : ∀ {json value}, value? json = some value ↔ Says value json) {said : List Json}

include reads

theorem defaulted_iff {absent value : α} :
    said.length ≤ 1 ∧ defaulted absent value? said.head? = some value
      ↔ TellsOr absent Says value said := by
  constructor
  · rintro ⟨once, read⟩
    rcases defaulted_told once read with missing | ⟨json, one, got⟩
    · exact .inl missing
    · exact .inr ⟨json, one, reads.mp got⟩
  · rintro (⟨rfl, rfl⟩ | ⟨json, rfl, tells⟩)
    · exact ⟨Nat.zero_le 1, rfl⟩
    · exact ⟨Nat.le_refl 1, reads.mpr tells⟩

theorem optional_iff (null : value? .null = none) {value : Option α} :
    said.length ≤ 1 ∧ optional value? said.head? = some value ↔ TellsOption Says value said := by
  constructor
  · rintro ⟨once, read⟩
    match said, once with
    | [], _ =>
      cases read
      exact .inl rfl
    | [json], _ =>
      by_cases same : json = .null
      · subst same
        cases read
        exact .inr rfl
      · rw [List.head?_cons, optional_of_ne same] at read
        obtain ⟨one, got, rfl⟩ := Option.map_eq_some_iff.mp read
        exact ⟨json, rfl, reads.mp got⟩
  · intro tells
    cases value with
    | none =>
      rcases tells with rfl | rfl
      · exact ⟨Nat.zero_le 1, rfl⟩
      · exact ⟨Nat.le_refl 1, rfl⟩
    | some one =>
      obtain ⟨json, rfl, tells⟩ := tells
      have got := reads.mpr tells
      have given : json ≠ .null := by
        rintro rfl
        rw [null] at got
        cases got
      refine ⟨Nat.le_refl 1, ?_⟩
      rw [List.head?_cons, optional_of_ne given, got]
      rfl

end Field

end

theorem text?_iff {json : Json} {text : String} : text? json = some text ↔ json = ofText text := by
  constructor
  · exact eq_ofText_of_text?
  · rintro rfl
    exact text?_ofText text

theorem bool?_iff {json : Json} {b : Bool} : bool? json = some b ↔ json = .bool b := by
  constructor
  · intro read
    unfold bool? at read
    split at read
    · cases read
      rfl
    · cases read
  · rintro rfl
    rfl

theorem natBelow?_iff {bound n : Nat} {json : Json} :
    natBelow? bound json = some n ↔ SaysNat n json ∧ n < bound := by
  constructor
  · exact saysNat_of_natBelow?
  · rintro ⟨⟨number, rfl, spelt⟩, below⟩
    rw [natBelow?, spelt, Option.filter_some, if_pos (decide_eq_true below)]

end WatchfaceCheck.Json
