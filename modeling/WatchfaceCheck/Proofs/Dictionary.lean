import Mathlib.Data.List.Nodup
import WatchfaceCheck.Dictionary
namespace WatchfaceCheck.Dictionary

variable {α : Type}

theorem mem_keys_iff {d : Dictionary α} {key : String} :
    key ∈ d.keys ↔ (d.find? key).isSome = true := by
  unfold keys find?
  rw [List.lookup_isSome_iff, List.mem_map]
  constructor
  · rintro ⟨entry, listed, rfl⟩
    exact ⟨entry, listed, beq_self_eq_true _⟩
  · rintro ⟨entry, listed, same⟩
    exact ⟨entry, listed, (beq_iff_eq.mp same).symm⟩

theorem nodup_keys (d : Dictionary α) : d.keys.Nodup := by
  unfold keys
  rw [List.nodup_iff_pairwise_ne, List.pairwise_map]
  refine d.ascending.imp ?_
  intro one other before same
  rw [same] at before
  exact String.lt_irrefl _ before

theorem lookup_eq_some_iff_mem {entries : List (String × α)} {key : String} {value : α}
    (distinct : (entries.map Prod.fst).Nodup) :
    entries.lookup key = some value ↔ (key, value) ∈ entries := by
  induction entries with
  | nil => simp
  | cons head rest ih =>
    obtain ⟨first, held⟩ := head
    obtain ⟨fresh, others⟩ := List.nodup_cons.mp distinct
    rw [lookup_entry, List.mem_cons, Prod.mk.injEq]
    by_cases same : key = first
    · subst same
      have absent : (key, value) ∉ rest := fun listed =>
        fresh (List.mem_map.mpr ⟨(key, value), listed, rfl⟩)
      simp [absent, eq_comm]
    · rw [if_neg same, ih others]
      simp [same]

theorem mem_entries_iff {d : Dictionary α} {key : String} {value : α} :
    (key, value) ∈ d.entries ↔ d.find? key = some value :=
  (lookup_eq_some_iff_mem d.nodup_keys).symm

theorem entries_nodup (d : Dictionary α) : d.entries.Nodup := .of_map Prod.fst d.nodup_keys

theorem ext_find? {a b : Dictionary α} (same : ∀ key, a.find? key = b.find? key) : a = b := by
  have entries : a.entries.Perm b.entries := by
    refine (List.perm_ext_iff_of_nodup a.entries_nodup b.entries_nodup).mpr ?_
    intro entry
    rw [mem_entries_iff, mem_entries_iff, same]
  refine ext (entries.eq_of_pairwise ?_ a.ascending b.ascending)
  intro one other _ _ before after
  exact absurd (String.lt_trans before after) (String.lt_irrefl _)

theorem find?_insertEach (entries : List (String × α)) (d : Dictionary α) (key : String) :
    (entries.foldl (fun d entry => d.insert entry.1 entry.2) d).find? key
      = (entries.reverse.lookup key).or (d.find? key) := by
  induction entries generalizing d with
  | nil => rfl
  | cons head rest ih =>
    obtain ⟨first, value⟩ := head
    rw [List.foldl_cons, ih, find?_insert, List.reverse_cons, List.lookup_append, lookup_entry,
      Option.or_assoc]
    congr 1
    split <;> rfl

theorem find?_ofList (entries : List (String × α)) (key : String) :
    (ofList entries).find? key = entries.reverse.lookup key := by
  unfold ofList
  rw [find?_insertEach, find?_empty, Option.or_none]

theorem entries_ofList {entries : List (String × α)} (distinct : (entries.map Prod.fst).Nodup) :
    (ofList entries).entries.Perm entries := by
  have backwards : (entries.reverse.map Prod.fst).Nodup := by
    rw [List.map_reverse]
    exact List.nodup_reverse.mpr distinct
  refine (List.perm_ext_iff_of_nodup (entries_nodup _) (.of_map Prod.fst distinct)).mpr ?_
  intro entry
  rw [mem_entries_iff, find?_ofList, lookup_eq_some_iff_mem backwards, List.mem_reverse]

theorem ofList_of_perm {entries : List (String × α)} {d : Dictionary α}
    (listed : entries.Perm d.entries) : ofList entries = d := by
  have mixed : entries.reverse.Perm d.entries := (List.reverse_perm entries).trans listed
  have distinct : (entries.reverse.map Prod.fst).Nodup :=
    (mixed.map Prod.fst).nodup_iff.mpr d.nodup_keys
  refine ext_find? ?_
  intro key
  rw [find?_ofList]
  refine Option.ext ?_
  intro value
  rw [lookup_eq_some_iff_mem distinct, mixed.mem_iff, mem_entries_iff]

end WatchfaceCheck.Dictionary
