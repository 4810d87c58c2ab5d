namespace WatchfaceCheck.Text

abbrev Bytes := List UInt8

abbrev Symbol := Option Char

namespace Utf8

-- How many bytes follow a first byte, and the range the first of them has to lie in.
-- The narrowed ranges shut out overlong forms, surrogates and numbers above U+10FFFF.
def shape (first : Nat) : Option (Nat × Nat × Nat) :=
  if first < 0x80 then some (0, 0x80, 0xBF)
  else if first < 0xC2 then none
  else if first < 0xE0 then some (1, 0x80, 0xBF)
  else if first = 0xE0 then some (2, 0xA0, 0xBF)
  else if first = 0xED then some (2, 0x80, 0x9F)
  else if first < 0xF0 then some (2, 0x80, 0xBF)
  else if first = 0xF0 then some (3, 0x90, 0xBF)
  else if first < 0xF4 then some (3, 0x80, 0xBF)
  else if first = 0xF4 then some (3, 0x80, 0x8F)
  else none

def leadBits (more first : Nat) : Nat :=
  match more with
  | 0 => first
  | 1 => first - 0xC0
  | 2 => first - 0xE0
  | _ => first - 0xF0

def follow : Nat → Nat → Nat → Nat → Bytes → Option Nat × Bytes
  | 0, _, _, value, rest => (some value, rest)
  | _ + 1, _, _, _, [] => (none, [])
  | more + 1, low, high, value, b :: rest =>
    if low ≤ b.toNat && b.toNat ≤ high
    then follow more 0x80 0xBF (value * 0x40 + (b.toNat - 0x80)) rest
    else (none, b :: rest)

theorem length_follow_le (more low high value : Nat) (bytes : Bytes) :
    (follow more low high value bytes).2.length ≤ bytes.length := by
  induction bytes generalizing more low high value with
  | nil => cases more <;> simp [follow]
  | cons b rest ih =>
    cases more with
    | zero => simp [follow]
    | succ more =>
      simp only [follow]
      split
      · exact Nat.le_succ_of_le (ih ..)
      · exact Nat.le_refl _

def next (first : UInt8) (rest : Bytes) : Symbol × Bytes :=
  match shape first.toNat with
  | none => (none, rest)
  | some (more, low, high) =>
    let read := follow more low high (leadBits more first.toNat) rest
    (read.1.map Char.ofNat, read.2)

theorem length_next_le (first : UInt8) (rest : Bytes) :
    (next first rest).2.length ≤ rest.length := by
  simp only [next]
  split
  · exact Nat.le_refl _
  · exact length_follow_le ..

def symbols : Bytes → List Symbol
  | [] => []
  | first :: rest => (next first rest).1 :: symbols (next first rest).2
termination_by bytes => bytes.length
decreasing_by exact Nat.lt_succ_of_le (length_next_le first rest)

end Utf8

def whole? (symbols : List Symbol) : Option String := (symbols.mapM id).map String.ofList

def lossy (symbols : List Symbol) : String :=
  String.ofList (symbols.map fun symbol => symbol.getD '\uFFFD')

def symbolsOf (text : String) : List Symbol := text.toList.map some

def bytesOf (text : String) : Bytes := text.toUTF8.toList

end WatchfaceCheck.Text
