import WatchfaceCheck.Proofs.Json.Printing
namespace WatchfaceCheck.Json

open Text

namespace Token

theorem forall_char_below {bound : Nat} {P : Char → Prop}
    (each : ∀ n < bound, P (Char.ofNat n)) {c : Char} (below : c.toNat < bound) : P c := by
  have one := each c.toNat below
  rwa [Char.ofNat_toNat] at one

theorem digitChar_of_digit? {s : Symbol} {d : Nat} (read : digit? s = some d) :
    d < 10 ∧ s = some (Nat.digitChar d) := by
  have table : ∀ n < 58, (digit? (some (Char.ofNat n))).all
      (fun d => d < 10 ∧ Char.ofNat n = Nat.digitChar d) = true := by decide
  cases s with
  | none => cases read
  | some c =>
    have upTo : c ≤ '9' := by
      simp only [digit?, Option.ite_none_right_eq_some, Bool.and_eq_true, decide_eq_true_eq] at read
      exact read.1.2
    have row := forall_char_below (P := fun c => (digit? (some c)).all
      (fun d => d < 10 ∧ c = Nat.digitChar d) = true) table (Nat.lt_succ_of_le upTo)
    rw [read] at row
    obtain ⟨below, same⟩ := of_decide_eq_true row
    exact ⟨below, congrArg some same⟩

theorem hexDigit_of_hexDigit? {s : Symbol} {n : Nat} (read : hexDigit? s = some n) :
    ∃ c, s = some c ∧ HexDigit n c := by
  have table : ∀ n < 103, (hexDigit? (some (Char.ofNat n))).all
      (fun value => HexDigit value (Char.ofNat n)) = true := by decide
  cases s with
  | none => cases read
  | some c =>
    have below : c.toNat < 103 := by
      refine Nat.lt_of_not_le fun above => ?_
      have beyond (last : Char) (small : last.toNat < 103) : ¬ c ≤ last := by
        intro upTo
        exact absurd (Nat.lt_of_le_of_lt upTo small) (Nat.not_lt.mpr above)
      simp [hexDigit?, beyond '9' (by decide), beyond 'f' (by decide), beyond 'F' (by decide)] at read
    have row := forall_char_below (P := fun c => (hexDigit? (some c)).all
      (fun value => HexDigit value c) = true) table below
    rw [read] at row
    exact ⟨c, rfl, of_decide_eq_true row⟩

theorem escapedUnit_of_hexUnit? {a b c d : Symbol} {unit : Nat}
    (read : hexUnit? a b c d = some unit) :
    ∃ digits, [a, b, c, d] = digits.map some ∧ EscapedUnit unit ('\\' :: 'u' :: digits) := by
  unfold hexUnit? at read
  obtain ⟨_, first, read⟩ := Option.bind_eq_some_iff.mp read
  obtain ⟨_, second, read⟩ := Option.bind_eq_some_iff.mp read
  obtain ⟨_, third, read⟩ := Option.bind_eq_some_iff.mp read
  obtain ⟨_, fourth, read⟩ := Option.bind_eq_some_iff.mp read
  cases read
  obtain ⟨_, rfl, ha⟩ := hexDigit_of_hexDigit? first
  obtain ⟨_, rfl, hb⟩ := hexDigit_of_hexDigit? second
  obtain ⟨_, rfl, hc⟩ := hexDigit_of_hexDigit? third
  obtain ⟨_, rfl, hd⟩ := hexDigit_of_hexDigit? fourth
  exact ⟨_, rfl, .hex ha hb hc hd⟩

theorem mem_shortEscapes_of_escaped? {e : Symbol} {c : Char} (read : escaped? e = some c) :
    ∃ letter, e = some letter ∧ (letter, c) ∈ shortEscapes := by
  unfold escaped? at read
  split at read
  all_goals cases read
  all_goals exact ⟨_, rfl, by decide⟩

-- A text begins with a spelling of the parts that are found beyond some done, and with the closing
-- quote.
def Closes (done found : List Part) (text rest : List Symbol) : Prop :=
  ∃ more front, found = done.reverse ++ more ∧ SpellsParts more front
    ∧ text = front.map some ++ some '"' :: rest

theorem Closes.step {done found : List Part} {part : Part} {front : List Char}
    {after rest : List Symbol} (spells : SpellsPart part front)
    (closes : Closes (part :: done) found after rest) :
    Closes done found (front.map some ++ after) rest := by
  obtain ⟨more, later, rfl, others, rfl⟩ := closes
  refine ⟨part :: more, front ++ later, ?_, .cons spells others, ?_⟩
  · rw [List.reverse_cons, List.append_assoc, List.singleton_append]
  · rw [List.map_append, List.append_assoc]

theorem closes_of_parts {done found : List Part} {text rest : List Symbol}
    (plain : none ∉ text) (read : parts done text = some (found, rest)) :
    Closes done found text rest := by
  fun_induction parts done text with
  | case1 | case4 | case6 | case8 | case9 => cases read
  | case2 => exact absurd List.mem_cons_self plain
  | case3 done after =>
    cases read
    exact ⟨[], [], (List.append_nil _).symm, .nil, rfl⟩
  | case5 done a b c d after unit digits ih =>
    obtain ⟨front, spelt, escaped⟩ := escapedUnit_of_hexUnit? digits
    have others := ih (fun marked => plain (by simp [marked])) read
    have whole : some '\\' :: some 'u' :: a :: b :: c :: d :: after
        = ('\\' :: 'u' :: front).map some ++ after := by
      rw [List.map_cons, List.map_cons, ← spelt]
      rfl
    rw [whole]
    exact others.step (.unit escaped)
  | case7 done e after _ c short ih =>
    obtain ⟨letter, rfl, listed⟩ := mem_shortEscapes_of_escaped? short
    have others := ih (fun marked => plain (by simp [marked])) read
    exact others.step (.short listed)
  | case10 done c after unquoted unslashed visible ih =>
    have others := ih (fun marked => plain (by simp [marked])) read
    exact others.step (.char (Nat.le_of_not_lt visible) unquoted unslashed)

theorem lt_of_escapedUnit {unit : Nat} {text : List Char} (escaped : EscapedUnit unit text) :
    unit < 0x10000 := by
  cases escaped with
  | hex first second third fourth =>
    obtain ⟨⟨_, _⟩, ⟨_, _⟩, ⟨_, _⟩, ⟨_, _⟩⟩ := And.intro first (And.intro second (And.intro third fourth))
    omega

theorem escapedUnit_unique {unit other : Nat} {text spelling rest more : List Char}
    (escaped : EscapedUnit unit text) (again : EscapedUnit other spelling)
    (same : text ++ rest = spelling ++ more) : unit = other := by
  cases escaped with
  | hex ha hb hc hd =>
    cases again with
    | hex ha' hb' hc' hd' =>
      have first := hexUnit?_eq ha hb hc hd
      have second := hexUnit?_eq ha' hb' hc' hd'
      simp only [List.cons_append, List.nil_append, List.cons.injEq, true_and] at same
      obtain ⟨rfl, rfl, rfl, rfl, -⟩ := same
      exact Option.some.inj (first.symm.trans second)

theorem exists_low_of_beginsLow {read : List Part} {text : List Char}
    (begins : BeginsLow text) (spells : SpellsParts read text) :
    ∃ low others, read = .unit low :: others ∧ isLow low = true := by
  obtain ⟨low, unit, rest, second, escaped, same⟩ := begins
  cases spells with
  | nil =>
    cases escaped
    cases same
  | @cons part others front more one later =>
    cases one with
    | char _ _ unslashed =>
      cases escaped
      cases same
      exact absurd rfl unslashed
    | short listed =>
      cases escaped
      cases same
      simp [shortEscapes] at listed
    | unit found =>
      have one := escapedUnit_unique found escaped same
      subst one
      exact ⟨_, others, rfl, second⟩

theorem code_ofNat {code : Nat} (valid : code.isValidChar) : (Char.ofNat code).toNat = code := by
  rw [Char.ofNat, dif_pos valid]
  rfl

theorem utf16Char_ofNat {unit : Nat} (small : unit < 0x10000) (notHigh : isHigh unit = false)
    (notLow : isLow unit = false) : utf16Char (Char.ofNat unit) = [unit] := by
  have valid : unit.isValidChar := by
    simp only [isHigh, isLow, Bool.and_eq_false_iff, decide_eq_false_iff_not] at notHigh notLow
    unfold Nat.isValidChar
    omega
  rw [utf16Char, code_ofNat valid, if_pos small]

theorem utf16Char_paired {high low : Nat} (first : isHigh high = true) (second : isLow low = true) :
    utf16Char (paired high low) = [high, low] := by
  simp only [isHigh, isLow, Bool.and_eq_true, decide_eq_true_eq] at first second
  have valid : (0x10000 + (high - 0xD800) * 0x400 + (low - 0xDC00)).isValidChar := by
    unfold Nat.isValidChar
    omega
  have front : 0xD800 + (0x10000 + (high - 0xD800) * 0x400 + (low - 0xDC00) - 0x10000) / 0x400
      = high := by omega
  have back : 0xDC00 + (0x10000 + (high - 0xD800) * 0x400 + (low - 0xDC00) - 0x10000) % 0x400
      = low := by omega
  rw [utf16Char, paired, code_ofNat valid, if_neg (by omega), front, back]

theorem spellsSymbols_unit {unit : Nat} {read : List Part} {front text : List Char}
    {found : List Symbol} (escaped : EscapedUnit unit front) (others : SpellsParts read text)
    (alone : isHigh unit = true → ∀ low more, read = .unit low :: more → isLow low = false)
    (later : SpellsSymbols found text) :
    SpellsSymbols ((Part.unit unit).symbol :: found) (front ++ text) := by
  have meant : (Part.unit unit).symbol
      = if isHigh unit || isLow unit then none else some (Char.ofNat unit) := rfl
  rw [meant]
  cases low : isLow unit with
  | true =>
    rw [Bool.or_true, if_pos rfl]
    exact .low low escaped later
  | false =>
    cases high : isHigh unit with
    | true =>
      rw [Bool.or_false, if_pos rfl]
      refine .high high escaped ?_ later
      intro begins
      obtain ⟨other, more, rfl, second⟩ := exists_low_of_beginsLow begins others
      rw [alone high other more rfl] at second
      cases second
    | false =>
      rw [Bool.or_false, if_neg Bool.false_ne_true]
      have units := utf16Char_ofNat (lt_of_escapedUnit escaped) high low
      have single : EscapedUnits [unit] front := by
        rw [← List.append_nil front]
        exact .cons escaped .nil
      rw [← units] at single
      exact .char (.units single) later

theorem spellsSymbols_of_parts {read : List Part} {text : List Char} (spells : SpellsParts read text) :
    SpellsSymbols (symbols read) text := by
  fun_induction symbols read generalizing text with
  | case1 =>
    cases spells
    exact .nil
  | case2 high low read pair ih =>
    obtain ⟨first, second⟩ := Bool.and_eq_true_iff.mp pair
    cases spells with
    | cons one later =>
      cases later with
      | @cons _ _ next rest other others =>
        cases one with
        | unit front =>
          cases other with
          | unit back =>
            -- Two units that make up one character are its encoding.
            have both : EscapedUnits [high, low] _ := .cons front (.cons back .nil)
            rw [← utf16Char_paired first second, List.append_nil] at both
            rw [← List.append_assoc]
            exact .char (.units both) (ih others)
  | case3 high low read apart ih =>
    cases spells with
    | cons one later =>
      cases one with
      | unit escaped =>
        refine spellsSymbols_unit escaped later ?_ (ih later)
        intro first other more same
        cases same
        simpa [first] using apart
  | case4 part read alone ih =>
    cases spells with
    | cons one later =>
      cases one with
      | char visible unquoted unslashed =>
        exact .char (.itself visible unquoted unslashed) (ih later)
      | short listed => exact .char (.short listed) (ih later)
      | unit escaped =>
        refine spellsSymbols_unit escaped later ?_ (ih later)
        intro _ low more same
        exact (alone _ low more rfl same).elim

theorem decimals_digits (text : List Symbol) : Decimals (digits text).1
    ∧ text = ((digits text).1.map Nat.digitChar).map some ++ (digits text).2 := by
  induction text with
  | nil => exact ⟨List.forall_mem_nil _, rfl⟩
  | cons s rest ih =>
    rw [digits]
    split
    · exact ⟨List.forall_mem_nil _, rfl⟩
    · next d read =>
      obtain ⟨decimals, front⟩ := ih
      obtain ⟨below, rfl⟩ := digitChar_of_digit? read
      exact ⟨List.forall_mem_cons.mpr ⟨below, decimals⟩, congrArg (List.cons _) front⟩

variable {text rest : List Symbol}

theorem whole_of_whole? {ds : List Nat} (read : whole? text = some (ds, rest)) :
    Whole ds ∧ text = (ds.map Nat.digitChar).map some ++ rest := by
  obtain ⟨decimals, front⟩ := decimals_digits text
  unfold whole? at read
  split at read
  · cases read
  · cases read
  · next given unpadded =>
    cases read
    refine ⟨⟨decimals, given, ?_⟩, front⟩
    intro zero
    cases ds : (digits text).1 with
    | nil => exact absurd ds given
    | cons first others =>
      rw [ds] at zero
      cases zero
      cases others with
      | nil => rfl
      | cons second more => exact absurd ds (unpadded second more)

theorem spellsFraction_of_fraction? {ds : List Nat} (read : fraction? text = some (ds, rest)) :
    ∃ point, SpellsFraction ds point ∧ text = point.map some ++ rest := by
  unfold fraction? at read
  split at read
  · next after =>
    obtain ⟨decimals, front⟩ := decimals_digits after
    split at read
    · cases read
    · next given =>
      cases read
      exact ⟨_, .digits given decimals, congrArg (List.cons _) front⟩
  · cases read
    exact ⟨[], .absent, rfl⟩

theorem spelt_of_signed? {negative : Bool} {exponent : Option Int}
    (read : signed? negative text = some (exponent, rest)) : ∃ ds, ds ≠ [] ∧ Decimals ds
      ∧ exponent = some (if negative then -(Number.decimal ds : Int) else Number.decimal ds)
      ∧ text = (ds.map Nat.digitChar).map some ++ rest := by
  obtain ⟨decimals, front⟩ := decimals_digits text
  unfold signed? at read
  split at read
  · cases read
  · next given =>
    cases read
    exact ⟨_, given, decimals, rfl, front⟩

theorem spelt_of_power? {exponent : Option Int} (read : power? text = some (exponent, rest)) :
    ∃ sign negative ds, (sign, negative) ∈ signs ∧ ds ≠ [] ∧ Decimals ds
      ∧ exponent = some (if negative then -(Number.decimal ds : Int) else Number.decimal ds)
      ∧ text = (sign ++ ds.map Nat.digitChar).map some ++ rest := by
  unfold power? at read
  split at read
  · next after =>
    obtain ⟨ds, given, decimals, value, front⟩ := spelt_of_signed? read
    exact ⟨['-'], true, ds, by decide, given, decimals, value, congrArg (List.cons _) front⟩
  · next after =>
    obtain ⟨ds, given, decimals, value, front⟩ := spelt_of_signed? read
    exact ⟨['+'], false, ds, by decide, given, decimals, value, congrArg (List.cons _) front⟩
  · obtain ⟨ds, given, decimals, value, front⟩ := spelt_of_signed? read
    exact ⟨[], false, ds, by decide, given, decimals, value, front⟩

theorem spellsExponent_of_mark {mark : Char} {after : List Symbol} {exponent : Option Int}
    (marked : mark ∈ ['e', 'E']) (read : power? after = some (exponent, rest)) :
    ∃ power, SpellsExponent exponent power ∧ some mark :: after = power.map some ++ rest := by
  obtain ⟨sign, negative, ds, signed, given, decimals, rfl, front⟩ := spelt_of_power? read
  exact ⟨_, .digits marked signed given decimals, congrArg (List.cons _) front⟩

theorem spellsExponent_of_exponent? {exponent : Option Int}
    (read : exponent? text = some (exponent, rest)) :
    ∃ power, SpellsExponent exponent power ∧ text = power.map some ++ rest := by
  unfold exponent? at read
  split at read
  · exact spellsExponent_of_mark (by decide) read
  · exact spellsExponent_of_mark (by decide) read
  · cases read
    exact ⟨[], .absent, rfl⟩

def Begins (token : Token) (text rest : List Symbol) : Prop :=
  ∃ front, Spells token front ∧ text = front.map some ++ rest

theorem begins_of_unsigned? {negative : Bool} {token : Token}
    (read : unsigned? negative text = some (token, rest)) :
    Begins token ((if negative then [some '-'] else []) ++ text) rest := by
  unfold unsigned? at read
  obtain ⟨⟨whole, afterWhole⟩, wholes, read⟩ := Option.bind_eq_some_iff.mp read
  obtain ⟨⟨fraction, afterFraction⟩, fractions, read⟩ := Option.bind_eq_some_iff.mp read
  obtain ⟨⟨exponent, afterExponent⟩, exponents, read⟩ := Option.bind_eq_some_iff.mp read
  cases read
  obtain ⟨wholeSpelt, rfl⟩ := whole_of_whole? wholes
  obtain ⟨point, pointSpelt, rfl⟩ := spellsFraction_of_fraction? fractions
  obtain ⟨power, powerSpelt, rfl⟩ := spellsExponent_of_exponent? exponents
  refine ⟨_, .number (.parts wholeSpelt pointSpelt powerSpelt), ?_⟩
  cases negative <;> simp

theorem begins_of_next? {token : Token} (plain : none ∉ text)
    (read : next? text = some (token, rest)) : Begins token text rest := by
  unfold next? at read
  split at read
  case h_1 => cases read; exact ⟨_, .openBrace, rfl⟩
  case h_2 => cases read; exact ⟨_, .closeBrace, rfl⟩
  case h_3 => cases read; exact ⟨_, .openBracket, rfl⟩
  case h_4 => cases read; exact ⟨_, .closeBracket, rfl⟩
  case h_5 => cases read; exact ⟨_, .colon, rfl⟩
  case h_6 => cases read; exact ⟨_, .comma, rfl⟩
  case h_7 => cases read; exact ⟨_, .null, rfl⟩
  case h_8 => cases read; exact ⟨_, .true, rfl⟩
  case h_9 => cases read; exact ⟨_, .false, rfl⟩
  case h_10 after =>
    obtain ⟨⟨found, rest⟩, parted, same⟩ := Option.map_eq_some_iff.mp read
    cases same
    have inside : none ∉ after := fun marked => plain (List.mem_cons_of_mem _ marked)
    obtain ⟨more, front, rfl, spells, rfl⟩ := closes_of_parts inside parted
    exact ⟨_, .string (spellsSymbols_of_parts spells), by simp⟩
  case h_11 => exact begins_of_unsigned? read
  case h_12 => exact begins_of_unsigned? read

theorem blanks_of_isSpace {s : Symbol} (space : isSpace s = true) :
    ∃ c, s = some c ∧ Blanks [c] := by
  cases s with
  | none => cases space
  | some c =>
    refine ⟨c, rfl, List.forall_mem_singleton.mpr ?_⟩
    simp only [isSpace, Bool.or_eq_true, beq_iff_eq] at space
    simp [or_assoc] at space ⊢
    exact space

theorem laid_of_scan {done tokens : List Token} (plain : none ∉ text)
    (read : scan done text = some tokens) :
    ∃ more chars, tokens = done.reverse ++ more ∧ text = chars.map some ∧ Laid more chars := by
  fun_induction scan done text with
  | case1 =>
    cases read
    exact ⟨[], [], (List.append_nil _).symm, rfl, .done blanks_nil⟩
  | case2 done s after space ih =>
    obtain ⟨more, chars, found, rfl, laid⟩ := ih (fun marked => plain (by simp [marked])) read
    obtain ⟨c, rfl, blank⟩ := blanks_of_isSpace space
    exact ⟨more, c :: chars, found, rfl, laid.indent blank⟩
  | case3 => cases read
  | case4 done s after _ token rest cut ih =>
    obtain ⟨front, spells, whole⟩ := begins_of_next? plain cut
    have inside : none ∉ rest := by
      intro marked
      rw [whole] at plain
      exact plain (List.mem_append_right _ marked)
    obtain ⟨more, chars, rfl, rfl, laid⟩ := ih inside read
    refine ⟨token :: more, front ++ chars, ?_, ?_, (Laid.single spells).append laid⟩
    · rw [List.reverse_cons, List.append_assoc, List.singleton_append]
    · rw [whole, List.map_append]

end Token

end WatchfaceCheck.Json
