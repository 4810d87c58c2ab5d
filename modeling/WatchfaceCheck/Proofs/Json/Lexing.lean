import WatchfaceCheck.Proofs.Json.Grammar
namespace WatchfaceCheck.Json.Token

open Text

theorem hexDigit?_eq {n : Nat} {c : Char} (digit : HexDigit n c) :
    hexDigit? (some c) = some n := by
  have table : ∀ n < 16, hexDigit? (some (Nat.digitChar n)) = some n
      ∧ hexDigit? (some (Nat.digitChar n).toUpper) = some n := by decide
  obtain ⟨below, rfl | rfl⟩ := digit
  · exact (table n below).1
  · exact (table n below).2

theorem hexUnit?_eq {a b c d : Nat} {first second third fourth : Char} (ha : HexDigit a first)
    (hb : HexDigit b second) (hc : HexDigit c third) (hd : HexDigit d fourth) :
    hexUnit? (some first) (some second) (some third) (some fourth)
      = some (((a * 16 + b) * 16 + c) * 16 + d) := by
  simp only [hexUnit?, hexDigit?_eq ha, hexDigit?_eq hb, hexDigit?_eq hc, hexDigit?_eq hd]
  rfl

theorem escaped?_eq {letter c : Char} (listed : (letter, c) ∈ shortEscapes) :
    escaped? (some letter) = some c := by
  have table : ∀ row ∈ shortEscapes, escaped? (some row.1) = some row.2 := by decide
  exact table _ listed

inductive SpellsPart : Part → List Char → Prop where
  | char {c : Char} : 0x20 ≤ c.toNat → c ≠ '"' → c ≠ '\\' → SpellsPart (.char c) [c]
  | short {letter c : Char} : (letter, c) ∈ shortEscapes → SpellsPart (.char c) ['\\', letter]
  | unit {unit : Nat} {text : List Char} : EscapedUnit unit text → SpellsPart (.unit unit) text

inductive SpellsParts : List Part → List Char → Prop where
  | nil : SpellsParts [] []
  | cons {part : Part} {parts : List Part} {text rest : List Char} : SpellsPart part text →
      SpellsParts parts rest → SpellsParts (part :: parts) (text ++ rest)

theorem parts_part {part : Part} {text : List Char} (spells : SpellsPart part text)
    (done : List Part) (rest : List Symbol) :
    parts done (text.map some ++ rest) = parts (part :: done) rest := by
  cases spells with
  | char visible unquoted unslashed =>
    have shown : ¬ _ < 0x20 := Nat.not_lt.mpr visible
    rw [List.map_singleton, List.singleton_append, parts.eq_def]
    simp [shown]
  | @short letter c listed =>
    have letterNe : letter ≠ 'u' := by
      rintro rfl
      revert listed
      simp [shortEscapes]
    simp [parts, letterNe, escaped?_eq listed]
  | unit escaped =>
    cases escaped with
    | hex ha hb hc hd => simp [parts, hexUnit?_eq ha hb hc hd]

theorem parts_spelt {read : List Part} {text : List Char} (spells : SpellsParts read text)
    (done : List Part) (rest : List Symbol) :
    parts done (text.map some ++ some '"' :: rest) = some (done.reverse ++ read, rest) := by
  induction spells generalizing done with
  | nil => simp [parts]
  | cons part _ ih =>
    rw [List.map_append, List.append_assoc, parts_part part, ih, List.reverse_cons,
      List.append_assoc, List.singleton_append]

theorem symbols_pair {high low : Nat} (first : isHigh high = true) (second : isLow low = true)
    (read : List Part) :
    symbols (.unit high :: .unit low :: read) = some (paired high low) :: symbols read := by
  rw [symbols.eq_def]
  simp [first, second]

theorem symbols_char (c : Char) (read : List Part) :
    symbols (.char c :: read) = some c :: symbols read := by
  rw [symbols.eq_def]
  rfl

theorem symbols_unit {unit : Nat} {read : List Part}
    (alone : isHigh unit = true → ∀ low rest, read = .unit low :: rest → isLow low = false) :
    symbols (.unit unit :: read) = (Part.unit unit).symbol :: symbols read := by
  rw [symbols.eq_def]
  split
  · next same => cases same
  · next high low rest same =>
    cases same
    have apart : (isHigh unit && isLow low) = false := by
      cases first : isHigh unit with
      | false => rfl
      | true => exact alone first low rest rfl
    rw [apart]
    rfl
  · next part rest _ same =>
    cases same
    rfl

theorem isHigh_eq_false_of_isLow {unit : Nat} (low : isLow unit = true) : isHigh unit = false := by
  simp only [isLow, isHigh, Bool.and_eq_true, decide_eq_true_eq, Bool.and_eq_false_iff,
    decide_eq_false_iff_not] at low ⊢
  omega

theorem symbols_utf16Char (c : Char) (read : List Part) :
    symbols ((utf16Char c).map .unit ++ read) = some c :: symbols read := by
  have valid := c.valid
  simp only [UInt32.isValidChar, Nat.isValidChar] at valid
  change c.toNat < 0xD800 ∨ 0xDFFF < c.toNat ∧ c.toNat < 0x110000 at valid
  unfold utf16Char
  by_cases basic : c.toNat < 0x10000
  · have notHigh : isHigh c.toNat = false := by simp [isHigh]; omega
    have notLow : isLow c.toNat = false := by simp [isLow]; omega
    rw [if_pos basic, List.map_singleton, List.singleton_append, symbols_unit (by simp [notHigh])]
    simp [Part.symbol, notHigh, notLow]
  · have first : isHigh (0xD800 + (c.toNat - 0x10000) / 0x400) = true := by
      simp only [isHigh, Bool.and_eq_true, decide_eq_true_eq]
      omega
    have second : isLow (0xDC00 + (c.toNat - 0x10000) % 0x400) = true := by
      simp only [isLow, Bool.and_eq_true, decide_eq_true_eq]
      omega
    have joined : 0x10000 + (0xD800 + (c.toNat - 0x10000) / 0x400 - 0xD800) * 0x400
        + (0xDC00 + (c.toNat - 0x10000) % 0x400 - 0xDC00) = c.toNat := by omega
    rw [if_neg basic, List.map_cons, List.map_singleton, List.cons_append, List.singleton_append,
      symbols_pair first second, paired, joined, Char.ofNat_toNat]

theorem SpellsParts.append {a b : List Part} {text rest : List Char} (first : SpellsParts a text)
    (second : SpellsParts b rest) : SpellsParts (a ++ b) (text ++ rest) := by
  induction first with
  | nil => exact second
  | cons part _ ih =>
    rw [List.cons_append, List.append_assoc]
    exact .cons part ih

theorem spellsParts_units {units : List Nat} {text : List Char}
    (escaped : EscapedUnits units text) : SpellsParts (units.map .unit) text := by
  induction escaped with
  | nil => exact .nil
  | cons unit _ ih => exact .cons (.unit unit) ih

theorem beginsLow_of_parts {low : Nat} {read : List Part} {text : List Char}
    (second : isLow low = true) (spells : SpellsParts (.unit low :: read) text) :
    BeginsLow text := by
  cases spells with
  | cons part _ =>
    cases part with
    | unit escaped => exact ⟨low, _, _, second, escaped, rfl⟩

theorem spelt_symbols {wanted : List Symbol} {text : List Char}
    (spells : SpellsSymbols wanted text) :
    ∃ read, SpellsParts read text ∧ symbols read = wanted := by
  induction spells with
  | nil => exact ⟨[], .nil, by rw [symbols.eq_def]⟩
  | @char c _ _ _ one _ ih =>
    obtain ⟨read, others, meant⟩ := ih
    cases one with
    | itself visible unquoted unslashed =>
      refine ⟨.char c :: read, .cons (.char visible unquoted unslashed) others, ?_⟩
      rw [symbols_char, meant]
    | short listed =>
      refine ⟨.char c :: read, .cons (.short listed) others, ?_⟩
      rw [symbols_char, meant]
    | units escaped =>
      refine ⟨_, (spellsParts_units escaped).append others, ?_⟩
      rw [symbols_utf16Char, meant]
  | @low unit _ _ _ half escaped _ ih =>
    obtain ⟨read, others, meant⟩ := ih
    -- A low surrogate begins no pair, whatever follows it.
    have notHigh := isHigh_eq_false_of_isLow half
    refine ⟨.unit unit :: read, .cons (.unit escaped) others, ?_⟩
    rw [symbols_unit (by simp [notHigh]), meant]
    simp [Part.symbol, half]
  | @high unit _ _ _ half escaped alone _ ih =>
    obtain ⟨read, others, meant⟩ := ih
    refine ⟨.unit unit :: read, .cons (.unit escaped) others, ?_⟩
    rw [symbols_unit, meant]
    · simp [Part.symbol, half]
    · rintro - low rest rfl
      cases second : isLow low with
      | false => rfl
      | true => exact absurd (beginsLow_of_parts second others) alone

def Stops (marks : List Char) (text : List Symbol) : Prop :=
  ∀ s rest, text = s :: rest → digit? s = none ∧ s ∉ marks.map some

def EndsNumber (text : List Symbol) : Prop := Stops ['.', 'e', 'E'] text

theorem Stops.mono {few many : List Char} {text : List Symbol} (stops : Stops many text)
    (fewer : few ⊆ many) : Stops few text := by
  intro s rest begins
  obtain ⟨digitless, unmarked⟩ := stops s rest begins
  exact ⟨digitless, fun listed => unmarked (List.map_subset some fewer listed)⟩

theorem digitChar_table : ∀ d < 10, digit? (some (Nat.digitChar d)) = some d
    ∧ Nat.digitChar d ≠ '-' ∧ Nat.digitChar d ≠ '+' := by decide

theorem digits_spelt {ds : List Nat} (decimals : Decimals ds) {rest : List Symbol}
    (stops : Stops [] rest) : digits ((ds.map Nat.digitChar).map some ++ rest) = (ds, rest) := by
  induction ds with
  | nil =>
    cases rest with
    | nil => rfl
    | cons s tail =>
      have digitless := (stops s tail rfl).1
      simp [digits, digitless]
  | cons d others ih =>
    have read := (digitChar_table d (decimals d List.mem_cons_self)).1
    have later := ih fun other listed => decimals other (List.mem_cons_of_mem _ listed)
    simp only [List.map_cons, List.cons_append, digits, read, later]

theorem whole?_spelt {ds : List Nat} (whole : Whole ds) {rest : List Symbol}
    (stops : Stops [] rest) :
    whole? ((ds.map Nat.digitChar).map some ++ rest) = some (ds, rest) := by
  obtain ⟨decimals, given, unpadded⟩ := whole
  unfold whole?
  rw [digits_spelt decimals stops]
  split
  · next none => exact absurd none given
  · next first second others padded =>
    have padded : ds = 0 :: second :: others := padded
    have alone := unpadded (by rw [padded]; rfl)
    rw [padded] at alone
    cases alone
  · rfl

theorem fraction?_spelt {fraction : List Nat} {point : List Char}
    (spells : SpellsFraction fraction point) {rest : List Symbol} (stops : Stops ['.'] rest) :
    fraction? (point.map some ++ rest) = some (fraction, rest) := by
  cases spells with
  | absent =>
    rw [List.map_nil, List.nil_append, fraction?.eq_def]
    split
    · next tail =>
      exact absurd (.head _) (stops _ _ rfl).2
    · rfl
  | digits given decimals =>
    have read := digits_spelt decimals (stops.mono (by simp))
    rw [List.map_cons, List.cons_append]
    simp only [fraction?, read]

theorem signed?_spelt {ds : List Nat} (given : ds ≠ []) (decimals : Decimals ds)
    (negative : Bool) {rest : List Symbol} (stops : Stops [] rest) :
    signed? negative ((ds.map Nat.digitChar).map some ++ rest)
      = some (some (if negative then -(Number.decimal ds : Int) else Number.decimal ds), rest) := by
  simp only [signed?, digits_spelt decimals stops]

theorem power?_spelt {sign : List Char} {negative : Bool} {ds : List Nat}
    (signed : (sign, negative) ∈ signs) (given : ds ≠ []) (decimals : Decimals ds)
    {rest : List Symbol} (stops : Stops [] rest) :
    power? ((sign ++ ds.map Nat.digitChar).map some ++ rest)
      = some (some (if negative then -(Number.decimal ds : Int) else Number.decimal ds), rest) := by
  have read (negative : Bool) := signed?_spelt given decimals negative stops
  simp only [signs, List.mem_cons, Prod.mk.injEq, List.not_mem_nil, or_false] at signed
  rcases signed with ⟨rfl, rfl⟩ | ⟨rfl, rfl⟩ | ⟨rfl, rfl⟩
  · obtain ⟨d, others, rfl⟩ := List.exists_cons_of_ne_nil given
    obtain ⟨-, notMinus, notPlus⟩ := digitChar_table d (decimals d List.mem_cons_self)
    rw [List.nil_append, ← read, List.map_cons, List.map_cons, List.cons_append, power?.eq_def]
    split
    · next same => exact absurd (Option.some.inj (List.cons.inj same).1) notMinus
    · next same => exact absurd (Option.some.inj (List.cons.inj same).1) notPlus
    · rfl
  · exact read false
  · exact read true

theorem exponent?_spelt {exponent : Option Int} {power : List Char}
    (spells : SpellsExponent exponent power) {rest : List Symbol} (ends : EndsNumber rest) :
    exponent? (power.map some ++ rest) = some (exponent, rest) := by
  cases spells with
  | absent =>
    rw [List.map_nil, List.nil_append, exponent?.eq_def]
    split
    · exact absurd (.tail _ (.head _)) (ends _ _ rfl).2
    · exact absurd (.tail _ (.tail _ (.head _))) (ends _ _ rfl).2
    · rfl
  | digits marked signed given decimals =>
    have digitless : Stops [] rest := ends.mono (by simp)
    have read := power?_spelt signed given decimals digitless
    rw [List.cons_append, List.map_cons, List.cons_append]
    simp only [List.mem_cons, List.not_mem_nil, or_false] at marked
    rcases marked with rfl | rfl
    · exact read
    · exact read

theorem stops_exponent {exponent : Option Int} {power : List Char}
    (spells : SpellsExponent exponent power) {rest : List Symbol} (ends : EndsNumber rest) :
    Stops ['.'] (power.map some ++ rest) := by
  cases spells with
  | absent => exact ends.mono (by simp)
  | digits marked _ _ _ =>
    intro s tail begins
    cases begins
    simp only [List.mem_cons, List.not_mem_nil, or_false] at marked
    rcases marked with rfl | rfl
    · decide
    · decide

theorem stops_fraction {fraction : List Nat} {point : List Char}
    (spells : SpellsFraction fraction point) {rest : List Symbol} (stops : Stops ['.'] rest) :
    Stops [] (point.map some ++ rest) := by
  cases spells with
  | absent => exact stops.mono (by simp)
  | digits _ _ =>
    intro s tail begins
    cases begins
    decide

theorem unsigned?_spelt {whole fraction : List Nat} {exponent : Option Int}
    {point power : List Char} (wholes : Whole whole) (fractions : SpellsFraction fraction point)
    (exponents : SpellsExponent exponent power) (negative : Bool) {rest : List Symbol}
    (ends : EndsNumber rest) :
    unsigned? negative ((whole.map Nat.digitChar ++ point ++ power).map some ++ rest)
      = some (.number ⟨negative, whole, fraction, exponent⟩, rest) := by
  have powers := stops_exponent exponents ends
  have points := stops_fraction fractions powers
  simp only [List.map_append, List.append_assoc] at points ⊢
  simp only [unsigned?, whole?_spelt wholes points, fraction?_spelt fractions powers,
    exponent?_spelt exponents ends, Option.bind_eq_bind, Option.bind_some]
  rfl

theorem next?_digit {d : Nat} (below : d < 10) (rest : List Symbol) :
    next? (some (Nat.digitChar d) :: rest) = unsigned? false (some (Nat.digitChar d) :: rest) := by
  match d, below with
  | 0, _ | 1, _ | 2, _ | 3, _ | 4, _ | 5, _ | 6, _ | 7, _ | 8, _ | 9, _ => rfl

theorem next?_number {n : Number} {text : List Char} (spells : SpellsNumber n text)
    {rest : List Symbol} (ends : EndsNumber rest) :
    next? (text.map some ++ rest) = some (.number n, rest) := by
  cases spells with
  | @parts negative whole fraction exponent point power wholes fractions exponents =>
    have read (negative : Bool) := unsigned?_spelt wholes fractions exponents negative ends
    cases negative with
    | true => exact read true
    | false =>
      obtain ⟨decimals, given, -⟩ := wholes
      obtain ⟨d, others, rfl⟩ := List.exists_cons_of_ne_nil given
      have first := next?_digit (decimals d List.mem_cons_self)
        ((others.map Nat.digitChar ++ point ++ power).map some ++ rest)
      exact first.trans (read false)

theorem next?_string {symbols : List Symbol} {text : List Char}
    (spells : SpellsSymbols symbols text) (rest : List Symbol) :
    next? (('"' :: text ++ ['"']).map some ++ rest) = some (.string symbols, rest) := by
  obtain ⟨read, parted, meant⟩ := spelt_symbols spells
  have found := parts_spelt parted [] rest
  have opened : ('"' :: text ++ ['"']).map some ++ rest
      = some '"' :: (text.map some ++ some '"' :: rest) := by simp
  rw [opened]
  simp only [next?, found, Option.map_some, List.reverse_nil, List.nil_append, meant]

def isNumber : Token → Bool
  | .number _ => true
  | _ => false

theorem next?_spelt {token : Token} {text : List Char} (spells : Spells token text)
    {rest : List Symbol} (ends : token.isNumber = true → EndsNumber rest) :
    next? (text.map some ++ rest) = some (token, rest) := by
  cases spells with
  | number number => exact next?_number number (ends rfl)
  | string symbols => exact next?_string symbols rest
  | openBrace | closeBrace | openBracket | closeBracket | colon | comma | null | true | false => rfl

-- What a token begins with is no blank, and unless it is a number no part of a number either.
theorem head_spelt {token : Token} {text : List Char} (spells : Spells token text) :
    ∃ c rest, text = c :: rest ∧ isSpace (some c) = false
      ∧ (token.isNumber = false → EndsNumber (text.map some)) := by
  cases spells with
  | number number =>
    cases number with
    | @parts negative whole fraction exponent point power wholes _ _ =>
      obtain ⟨decimals, given, -⟩ := wholes
      obtain ⟨d, others, rfl⟩ := List.exists_cons_of_ne_nil given
      have digits : ∀ d < 10, isSpace (some (Nat.digitChar d)) = false := by decide
      cases negative with
      | true => exact ⟨_, _, rfl, rfl, by simp [isNumber]⟩
      | false => exact ⟨_, _, rfl, digits d (decimals d List.mem_cons_self), by simp [isNumber]⟩
  | string _ =>
    refine ⟨_, _, rfl, rfl, ?_⟩
    rintro - s rest begins
    cases begins
    decide
  | openBrace | closeBrace | openBracket | closeBracket | colon | comma | null | true | false =>
    refine ⟨_, _, rfl, rfl, ?_⟩
    rintro - s rest begins
    cases begins
    decide

theorem scan_blanks {blanks : List Char} (blank : Blanks blanks) (done : List Token)
    (text : List Symbol) : scan done (blanks.map some ++ text) = scan done text := by
  induction blanks with
  | nil => rfl
  | cons c others ih =>
    have space : isSpace (some c) = true := by
      have listed := blank c List.mem_cons_self
      simp only [List.mem_cons, List.not_mem_nil, or_false] at listed
      rcases listed with rfl | rfl | rfl | rfl <;> rfl
    rw [List.map_cons, List.cons_append, scan.eq_def]
    simp only [space, if_true]
    exact ih fun other listed => blank other (List.mem_cons_of_mem _ listed)

theorem scan_next {token : Token} {s : Symbol} {rest after : List Symbol}
    (visible : isSpace s = false) (read : next? (s :: rest) = some (token, after))
    (done : List Token) : scan done (s :: rest) = scan (token :: done) after := by
  rw [scan.eq_def]
  simp only [visible, Bool.false_eq_true, if_false]
  split
  · next none =>
    rw [read] at none
    cases none
  · next other left found =>
    rw [read] at found
    cases found
    rfl

end WatchfaceCheck.Json.Token
