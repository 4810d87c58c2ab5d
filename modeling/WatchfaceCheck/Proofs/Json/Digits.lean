import WatchfaceCheck.Proofs.Json.Grammar
namespace WatchfaceCheck.Json

def digitsOf (n : Nat) : List Nat := (Nat.toDigits 10 n).map fun c => c.toNat - 48

theorem digitsOf_eq (n : Nat) :
    digitsOf n = if n < 10 then [n] else digitsOf (n / 10) ++ [n % 10] := by
  have back {d : Nat} (below : d < 10) : (Nat.digitChar d).toNat - 48 = d :=
    Nat.toNat_digitChar_sub_48_of_lt_ten below
  unfold digitsOf
  by_cases small : n < 10
  · rw [if_pos small, Nat.toDigits_of_lt_base small, List.map_singleton, back small]
  · rw [if_neg small, Nat.toDigits_of_base_le (by decide) (Nat.le_of_not_lt small), List.map_append,
      List.map_singleton, back (Nat.mod_lt n (by decide))]

theorem digitsOf_induct {P : Nat → List Nat → Prop} (one : ∀ n < 10, P n [n])
    (more : ∀ n digits, 10 ≤ n → P (n / 10) digits → P n (digits ++ [n % 10])) (n : Nat) :
    P n (digitsOf n) := by
  induction n using Nat.strongRecOn with
  | ind n ih =>
    rw [digitsOf_eq]
    split
    · next small => exact one n small
    · next large => exact more n _ (Nat.le_of_not_lt large) (ih (n / 10) (by omega))

theorem digitsOf_ne_nil (n : Nat) : digitsOf n ≠ [] := by
  simp [digitsOf]

theorem decimals_digitsOf (n : Nat) : Token.Decimals (digitsOf n) := by
  refine digitsOf_induct (P := fun _ digits => Token.Decimals digits) ?one ?more n
  case one => simp [Token.Decimals]
  case more =>
    intro n digits _ before d listed
    rcases List.mem_append.mp listed with early | last
    · exact before d early
    · rw [List.mem_singleton.mp last]
      exact Nat.mod_lt n (by decide)

theorem decimal_digitsOf (n : Nat) : Number.decimal (digitsOf n) = n := by
  refine digitsOf_induct (P := fun n digits => Number.decimal digits = n) ?one ?more n
  case one => simp [Number.decimal]
  case more =>
    intro n digits _ before
    unfold Number.decimal at before ⊢
    rw [List.foldl_append, before]
    exact Nat.div_add_mod' n 10

theorem head_digitsOf {n : Nat} (positive : n ≠ 0) :
    ∃ first others, digitsOf n = first :: others ∧ first ≠ 0 := by
  refine digitsOf_induct (P := fun n digits =>
    n ≠ 0 → ∃ first others, digits = first :: others ∧ first ≠ 0) ?one ?more n positive
  case one => exact fun n _ positive => ⟨n, [], rfl, positive⟩
  case more =>
    intro n digits large before _
    obtain ⟨first, others, rfl, leading⟩ := before (by omega)
    exact ⟨first, others ++ [n % 10], rfl, leading⟩

theorem whole_digitsOf (n : Nat) : Token.Whole (digitsOf n) := by
  refine ⟨decimals_digitsOf n, digitsOf_ne_nil n, ?_⟩
  intro zero
  by_cases nothing : n = 0
  · rw [nothing]
    rfl
  · obtain ⟨first, others, begins, leading⟩ := head_digitsOf nothing
    rw [begins] at zero
    exact absurd (Option.some.inj zero) leading

theorem map_digitChar_digitsOf (n : Nat) :
    (digitsOf n).map Nat.digitChar = Nat.toDigits 10 n := by
  refine digitsOf_induct (P := fun n digits => digits.map Nat.digitChar = Nat.toDigits 10 n)
    ?one ?more n
  case one => exact fun n small => (Nat.toDigits_of_lt_base small).symm
  case more =>
    intro n digits large before
    rw [List.map_append, before, Nat.toDigits_of_base_le (by decide) large, List.map_singleton]

end WatchfaceCheck.Json
