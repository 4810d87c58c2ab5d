import WatchfaceCheck.Json.Value
namespace WatchfaceCheck.Json

open Text

inductive Token where
  | openBrace
  | closeBrace
  | openBracket
  | closeBracket
  | colon
  | comma
  | null
  | bool (b : Bool)
  | number (n : Number)
  | string (symbols : List Symbol)
deriving DecidableEq, Repr

namespace Token

-- A string is read as parts; the code units that escapes give are paired up afterwards.
inductive Part where
  | char (c : Char)
  | unit (u : Nat)
  | unreadable
deriving DecidableEq, Repr

def hexDigit? : Symbol → Option Nat
  | none => none
  | some c =>
    if '0' ≤ c && c ≤ '9' then some (c.toNat - 48)
    else if 'a' ≤ c && c ≤ 'f' then some (c.toNat - 87)
    else if 'A' ≤ c && c ≤ 'F' then some (c.toNat - 55)
    else none

def hexUnit? (a b c d : Symbol) : Option Nat := do
  let a ← hexDigit? a
  let b ← hexDigit? b
  let c ← hexDigit? c
  let d ← hexDigit? d
  return ((a * 16 + b) * 16 + c) * 16 + d

def escaped? : Symbol → Option Char
  | some '"' => some '"'
  | some '\\' => some '\\'
  | some '/' => some '/'
  | some 'b' => some '\x08'
  | some 'f' => some '\x0c'
  | some 'n' => some '\n'
  | some 'r' => some '\r'
  | some 't' => some '\t'
  | _ => none

def parts (done : List Part) : List Symbol → Option (List Part × List Symbol)
  | [] => none
  | none :: rest => parts (.unreadable :: done) rest
  | some '"' :: rest => some (done.reverse, rest)
  | some '\\' :: rest =>
    match rest with
    | some 'u' :: a :: b :: c :: d :: after =>
      match hexUnit? a b c d with
      | none => none
      | some u => parts (.unit u :: done) after
    | e :: after =>
      match escaped? e with
      | none => none
      | some c => parts (.char c :: done) after
    | [] => none
  | some c :: rest => if c.toNat < 0x20 then none else parts (.char c :: done) rest

def isHigh (u : Nat) : Bool := 0xD800 ≤ u && u < 0xDC00

def isLow (u : Nat) : Bool := 0xDC00 ≤ u && u < 0xE000

def paired (high low : Nat) : Char :=
  Char.ofNat (0x10000 + (high - 0xD800) * 0x400 + (low - 0xDC00))

def Part.symbol : Part → Symbol
  | .char c => some c
  | .unit u => if isHigh u || isLow u then none else some (Char.ofNat u)
  | .unreadable => none

-- A high surrogate directly before a low one stands with it for one character; any other
-- surrogate stands for none.
def symbols : List Part → List Symbol
  | [] => []
  | .unit high :: .unit low :: rest =>
    if isHigh high && isLow low then some (paired high low) :: symbols rest
    else (Part.unit high).symbol :: symbols (.unit low :: rest)
  | part :: rest => part.symbol :: symbols rest
termination_by parts => parts.length

def digit? : Symbol → Option Nat
  | none => none
  | some c => if '0' ≤ c && c ≤ '9' then some (c.toNat - 48) else none

def digits : List Symbol → List Nat × List Symbol
  | [] => ([], [])
  | s :: rest =>
    match digit? s with
    | none => ([], s :: rest)
    | some d => (d :: (digits rest).1, (digits rest).2)

def whole? (text : List Symbol) : Option (List Nat × List Symbol) :=
  match (digits text).1 with
  | [] => none
  | 0 :: _ :: _ => none
  | ds => some (ds, (digits text).2)

def fraction? : List Symbol → Option (List Nat × List Symbol)
  | some '.' :: rest =>
    match (digits rest).1 with
    | [] => none
    | ds => some (ds, (digits rest).2)
  | text => some ([], text)

def signed? (negative : Bool) (text : List Symbol) : Option (Option Int × List Symbol) :=
  match (digits text).1 with
  | [] => none
  | ds =>
    let magnitude : Int := Number.decimal ds
    some (some (if negative then -magnitude else magnitude), (digits text).2)

def power? : List Symbol → Option (Option Int × List Symbol)
  | some '-' :: rest => signed? true rest
  | some '+' :: rest => signed? false rest
  | text => signed? false text

def exponent? : List Symbol → Option (Option Int × List Symbol)
  | some 'e' :: rest => power? rest
  | some 'E' :: rest => power? rest
  | text => some (none, text)

def unsigned? (negative : Bool) (text : List Symbol) : Option (Token × List Symbol) := do
  let (whole, text) ← whole? text
  let (fraction, text) ← fraction? text
  let (exponent, text) ← exponent? text
  return (.number ⟨negative, whole, fraction, exponent⟩, text)

def next? : List Symbol → Option (Token × List Symbol)
  | some '\x7b' :: rest => some (.openBrace, rest)
  | some '\x7d' :: rest => some (.closeBrace, rest)
  | some '[' :: rest => some (.openBracket, rest)
  | some ']' :: rest => some (.closeBracket, rest)
  | some ':' :: rest => some (.colon, rest)
  | some ',' :: rest => some (.comma, rest)
  | some 'n' :: some 'u' :: some 'l' :: some 'l' :: rest => some (.null, rest)
  | some 't' :: some 'r' :: some 'u' :: some 'e' :: rest => some (.bool true, rest)
  | some 'f' :: some 'a' :: some 'l' :: some 's' :: some 'e' :: rest => some (.bool false, rest)
  | some '"' :: rest => (parts [] rest).map fun read => (.string (symbols read.1), read.2)
  | some '-' :: rest => unsigned? true rest
  | text => unsigned? false text

def isSpace : Symbol → Bool
  | some c => c == ' ' || c == '\t' || c == '\n' || c == '\r'
  | none => false

theorem length_parts_lt {done read : List Part} {text rest : List Symbol}
    (got : parts done text = some (read, rest)) : rest.length < text.length := by
  fun_induction parts done text <;> simp_all <;> omega

theorem length_digits_le (text : List Symbol) : (digits text).2.length ≤ text.length := by
  fun_induction digits text <;> simp_all; omega

theorem length_digits_lt {text : List Symbol} (some_digit : (digits text).1 ≠ []) :
    (digits text).2.length < text.length := by
  cases text with
  | nil => simp [digits] at some_digit
  | cons s rest =>
    simp only [digits] at some_digit ⊢
    split
    · next h => simp [h] at some_digit
    · exact Nat.lt_succ_of_le (length_digits_le rest)

theorem length_whole_lt {text rest : List Symbol} {ds : List Nat}
    (got : whole? text = some (ds, rest)) : rest.length < text.length := by
  simp only [whole?] at got
  split at got
  · cases got
  · cases got
  · next notEmpty _ =>
    cases got
    exact length_digits_lt notEmpty

theorem length_fraction_le {text rest : List Symbol} {ds : List Nat}
    (got : fraction? text = some (ds, rest)) : rest.length ≤ text.length := by
  simp only [fraction?] at got
  split at got
  · next after =>
    split at got
    · simp at got
    · have same : (digits after).2 = rest := congrArg Prod.snd (Option.some.inj got)
      exact same ▸ Nat.le_succ_of_le (length_digits_le after)
  · simp at got
    simp [got]

theorem length_signed_le {negative : Bool} {text rest : List Symbol} {e : Option Int}
    (got : signed? negative text = some (e, rest)) : rest.length ≤ text.length := by
  simp only [signed?] at got
  split at got <;> simp at got
  exact got.2 ▸ length_digits_le text

theorem length_power_le {text rest : List Symbol} {e : Option Int}
    (got : power? text = some (e, rest)) : rest.length ≤ text.length := by
  simp only [power?] at got
  split at got
  · exact Nat.le_succ_of_le (length_signed_le got)
  · exact Nat.le_succ_of_le (length_signed_le got)
  · exact length_signed_le got

theorem length_exponent_le {text rest : List Symbol} {e : Option Int}
    (got : exponent? text = some (e, rest)) : rest.length ≤ text.length := by
  simp only [exponent?] at got
  split at got
  · exact Nat.le_succ_of_le (length_power_le got)
  · exact Nat.le_succ_of_le (length_power_le got)
  · simp at got
    simp [got]

theorem length_unsigned_lt {negative : Bool} {text rest : List Symbol} {token : Token}
    (got : unsigned? negative text = some (token, rest)) : rest.length < text.length := by
  simp only [unsigned?, bind, Option.bind_eq_some_iff, pure, Option.some.injEq, Prod.mk.injEq,
    Prod.exists] at got
  obtain ⟨_, _, whole, _, _, fraction, _, _, exponent, _, rfl⟩ := got
  exact Nat.lt_of_le_of_lt (length_exponent_le exponent)
    (Nat.lt_of_le_of_lt (length_fraction_le fraction) (length_whole_lt whole))

theorem length_lt_of_next {text rest : List Symbol} {token : Token}
    (got : next? text = some (token, rest)) : rest.length < text.length := by
  unfold next? at got
  split at got
  case h_10 after =>
    obtain ⟨read, parted, eq⟩ := Option.map_eq_some_iff.mp got
    obtain ⟨_, rfl⟩ := Prod.mk.inj eq
    exact Nat.lt_succ_of_lt (length_parts_lt parted)
  case h_11 after => exact Nat.lt_succ_of_lt (length_unsigned_lt got)
  case h_12 => exact length_unsigned_lt got
  all_goals
    obtain ⟨_, rfl⟩ := by simpa using got
    simp
    try omega

def scan (done : List Token) (text : List Symbol) : Option (List Token) :=
  match text with
  | [] => some done.reverse
  | s :: rest =>
    if isSpace s then scan done rest
    else match _ : next? (s :: rest) with
      | none => none
      | some (token, after) => scan (token :: done) after
termination_by text.length
decreasing_by
  · simp
  · exact length_lt_of_next (by assumption)

end Token

end WatchfaceCheck.Json
