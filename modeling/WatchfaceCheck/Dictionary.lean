namespace WatchfaceCheck

variable {α : Type}

namespace Dictionary

def put (key : String) (value : α) : List (String × α) → List (String × α)
  | [] => [(key, value)]
  | entry :: rest =>
    if key < entry.1 then (key, value) :: entry :: rest
    else if key = entry.1 then (key, value) :: rest
    else entry :: put key value rest

def Ascending (entries : List (String × α)) : Prop :=
  entries.Pairwise fun a b => a.1 < b.1

theorem mem_put {key : String} {value : α} {entries : List (String × α)} {entry : String × α}
    (present : entry ∈ put key value entries) : entry = (key, value) ∨ entry ∈ entries := by
  induction entries with
  | nil => simpa [put] using present
  | cons head rest ih =>
    simp only [put] at present
    split at present
    · simpa using present
    · split at present
      · rcases List.mem_cons.mp present with same | old
        · exact .inl same
        · exact .inr (List.mem_cons_of_mem _ old)
      · rcases List.mem_cons.mp present with same | later
        · exact .inr (same ▸ List.mem_cons_self ..)
        · exact (ih later).imp_right (List.mem_cons_of_mem _)

theorem put_ascending {key : String} {value : α} {entries : List (String × α)}
    (ascending : Ascending entries) : Ascending (put key value entries) := by
  induction entries with
  | nil => simp [put, Ascending]
  | cons head rest ih =>
    obtain ⟨first, others⟩ := List.pairwise_cons.mp ascending
    simp only [put]
    split
    · next before =>
      refine List.pairwise_cons.mpr ⟨fun entry member => ?_, ascending⟩
      rcases List.mem_cons.mp member with same | later
      · exact same ▸ before
      · exact String.lt_trans before (first entry later)
    · next notBefore =>
      split
      · next same => exact List.pairwise_cons.mpr ⟨fun entry member => same ▸ first entry member, others⟩
      · next different =>
        refine List.pairwise_cons.mpr ⟨fun entry member => ?_, ih others⟩
        rcases mem_put member with same | old
        · subst same
          exact Decidable.byContradiction fun notAfter =>
            different (String.le_antisymm notAfter notBefore)
        · exact first entry old

end Dictionary

structure Dictionary (α : Type) where
  entries : List (String × α)
  ascending : Dictionary.Ascending entries

namespace Dictionary

def empty : Dictionary α := ⟨[], List.Pairwise.nil⟩

instance : Inhabited (Dictionary α) := ⟨empty⟩

def find? (d : Dictionary α) (key : String) : Option α := d.entries.lookup key

def insert (d : Dictionary α) (key : String) (value : α) : Dictionary α :=
  ⟨put key value d.entries, put_ascending d.ascending⟩

def size (d : Dictionary α) : Nat := d.entries.length

def isEmpty (d : Dictionary α) : Bool := d.entries.isEmpty

def keys (d : Dictionary α) : List String := d.entries.map Prod.fst

def ofList (entries : List (String × α)) : Dictionary α :=
  entries.foldl (fun d entry => d.insert entry.1 entry.2) empty

theorem ext {a b : Dictionary α} (same : a.entries = b.entries) : a = b := by
  cases a; cases b; cases same; rfl

theorem find?_empty (key : String) : (empty : Dictionary α).find? key = none := rfl

theorem lookup_entry (wanted key : String) (value : α) (rest : List (String × α)) :
    ((key, value) :: rest).lookup wanted = if wanted = key then some value else rest.lookup wanted := by
  by_cases same : wanted = key
  · simp [same]
  · simp [List.lookup_cons, beq_eq_false_iff_ne.mpr same, same]

theorem lookup_put (key wanted : String) (value : α) (entries : List (String × α)) :
    (put key value entries).lookup wanted
      = if wanted = key then some value else entries.lookup wanted := by
  induction entries with
  | nil => simp [put, lookup_entry]
  | cons head rest ih =>
    obtain ⟨first, old⟩ := head
    simp only [put]
    split
    · simp only [lookup_entry]
    · split
      · next same => subst same; simp only [lookup_entry]; split <;> rfl
      · next different =>
        simp only [lookup_entry, ih]
        split
        · next hit => subst hit; simp [Ne.symm different]
        · rfl

theorem find?_insert (d : Dictionary α) (key wanted : String) (value : α) :
    (d.insert key value).find? wanted = if wanted = key then some value else d.find? wanted :=
  lookup_put key wanted value d.entries

end Dictionary

end WatchfaceCheck
