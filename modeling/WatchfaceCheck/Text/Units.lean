namespace WatchfaceCheck.Text

def utf16Char (c : Char) : List Nat :=
  if c.toNat < 0x10000 then [c.toNat]
  else [0xD800 + (c.toNat - 0x10000) / 0x400, 0xDC00 + (c.toNat - 0x10000) % 0x400]

def utf16 (text : List Char) : List Nat := text.flatMap utf16Char

def charUnits (c : Char) : Nat := if c.toNat < 0x10000 then 1 else 2

def units (text : List Char) : Nat := text.foldr (fun c count => charUnits c + count) 0

theorem length_utf16Char (c : Char) : (utf16Char c).length = charUnits c := by
  simp only [utf16Char, charUnits]
  split <;> rfl

@[simp] theorem units_nil : units [] = 0 := rfl

@[simp] theorem units_cons (c : Char) (text : List Char) :
    units (c :: text) = charUnits c + units text := rfl

@[simp] theorem units_append (a b : List Char) : units (a ++ b) = units a + units b := by
  induction a with
  | nil => simp
  | cons c rest ih =>
    rw [List.cons_append, units_cons, units_cons, ih, Nat.add_assoc]

theorem length_utf16 (text : List Char) : (utf16 text).length = units text := by
  induction text with
  | nil => rfl
  | cons c rest ih => simp [utf16, length_utf16Char] at ih ⊢; omega

end WatchfaceCheck.Text
