namespace WatchfaceCheck.Text

-- There is always one more part than there are separators; parts may be empty.
def split (separator : Char) : List Char → List (List Char)
  | [] => [[]]
  | c :: rest =>
    if c = separator then [] :: split separator rest
    else match split separator rest with
      | [] => [[c]]
      | part :: others => (c :: part) :: others

def joinWith (separator : Char) : List (List Char) → List Char
  | [] => []
  | [part] => part
  | part :: others => part ++ separator :: joinWith separator others

theorem split_ne_nil (separator : Char) (text : List Char) : split separator text ≠ [] := by
  cases text with
  | nil => simp [split]
  | cons c rest =>
    simp only [split]
    split
    · simp
    · split <;> simp

theorem length_split (separator : Char) (text : List Char) :
    (split separator text).length = text.count separator + 1 := by
  induction text with
  | nil => rfl
  | cons c rest ih =>
    simp only [Text.split, List.count_cons, beq_iff_eq]
    split
    · simp [ih]
    · split
      · next h => exact absurd h (split_ne_nil separator rest)
      · next part others h => rw [h] at ih; simpa using ih

theorem joinWith_split (separator : Char) (text : List Char) :
    joinWith separator (split separator text) = text := by
  induction text with
  | nil => rfl
  | cons c rest ih =>
    simp only [Text.split]
    split
    · next same =>
      cases h : Text.split separator rest with
      | nil => exact absurd h (split_ne_nil separator rest)
      | cons part others => rw [h] at ih; simp [joinWith, ih, same]
    · split
      · next h => exact absurd h (split_ne_nil separator rest)
      · next part others h =>
        rw [h] at ih
        cases others with
        | nil => simpa [joinWith] using ih
        | cons other more => simpa [joinWith] using ih

theorem split_of_not_mem {separator : Char} {part : List Char} (whole : separator ∉ part) :
    split separator part = [part] := by
  induction part with
  | nil => rfl
  | cons c rest ih =>
    rw [List.mem_cons, not_or] at whole
    simp only [split, if_neg (Ne.symm whole.1), ih whole.2]

theorem split_append {separator : Char} {part : List Char} (whole : separator ∉ part)
    (rest : List Char) :
    split separator (part ++ separator :: rest) = part :: split separator rest := by
  induction part with
  | nil => simp [split]
  | cons c others ih =>
    rw [List.mem_cons, not_or] at whole
    simp only [List.cons_append, split, if_neg (Ne.symm whole.1), ih whole.2]

theorem joinWith_next (separator : Char) (part next : List Char) (more : List (List Char)) :
    joinWith separator (part :: next :: more)
      = part ++ separator :: joinWith separator (next :: more) := rfl

theorem split_joinWith {separator : Char} {parts : List (List Char)} (some : parts ≠ [])
    (whole : ∀ part ∈ parts, separator ∉ part) :
    split separator (joinWith separator parts) = parts := by
  induction parts with
  | nil => exact absurd rfl some
  | cons first others ih =>
    obtain ⟨head, tail⟩ := List.forall_mem_cons.mp whole
    cases others with
    | nil => exact split_of_not_mem head
    | cons next more => rw [joinWith_next, split_append head, ih (List.cons_ne_nil _ _) tail]

theorem takeWhile_run {α : Type} {p : α → Bool} {run rest : List α}
    (inside : ∀ x ∈ run, p x = true) (outside : ∀ x, rest.head? = some x → p x = false) :
    (run ++ rest).takeWhile p = run := by
  rw [List.takeWhile_append_of_pos inside]
  cases rest with
  | nil => simp
  | cons x others =>
    rw [List.takeWhile_cons_of_neg (by simp [outside x rfl]), List.append_nil]

theorem dropWhile_run {α : Type} {p : α → Bool} {run rest : List α}
    (inside : ∀ x ∈ run, p x = true) (outside : ∀ x, rest.head? = some x → p x = false) :
    (run ++ rest).dropWhile p = rest := by
  rw [List.dropWhile_append_of_pos inside]
  cases rest with
  | nil => rfl
  | cons x others => rw [List.dropWhile_cons_of_neg (by simp [outside x rfl])]

end WatchfaceCheck.Text
