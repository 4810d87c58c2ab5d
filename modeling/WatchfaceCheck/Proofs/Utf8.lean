import WatchfaceCheck.Text.Utf8
namespace WatchfaceCheck.Text

namespace Utf8

-- How the lead bits of a first byte narrow the byte after it.
theorem shape_two : ∀ lead < 32, 2 ≤ lead → shape (lead + 0xC0) = some (1, 0x80, 0xBF) := by decide

theorem shape_three : ∀ lead < 16, shape (lead + 0xE0)
    = some (2, if lead = 0 then 0xA0 else 0x80, if lead = 13 then 0x9F else 0xBF) := by decide

theorem shape_four : ∀ lead < 5, shape (lead + 0xF0)
    = some (3, if lead = 0 then 0x90 else 0x80, if lead = 4 then 0x8F else 0xBF) := by decide

theorem follow_step {more low high value bits : Nat} {rest : Bytes} (short : bits < 64)
    (above : low ≤ bits + 0x80) (below : bits + 0x80 ≤ high) :
    follow (more + 1) low high value (UInt8.ofNat (bits + 0x80) :: rest)
      = follow more 0x80 0xBF (value * 0x40 + bits) rest := by
  have byte : (UInt8.ofNat (bits + 0x80)).toNat = bits + 0x80 :=
    UInt8.toNat_ofNat_of_lt (show _ < 256 by omega)
  simp only [follow, byte, above, below, decide_true, Bool.and_self, if_true, Nat.add_sub_cancel]

theorem follow_last {low high value bits : Nat} {rest : Bytes} (short : bits < 64)
    (above : low ≤ bits + 0x80) (below : bits + 0x80 ≤ high) :
    follow 1 low high value (UInt8.ofNat (bits + 0x80) :: rest)
      = (some (value * 0x40 + bits), rest) :=
  follow_step short above below

def symbolOf (read : Option Nat × Bytes) : Symbol × Bytes := (read.1.map Char.ofNat, read.2)

theorem next_shaped {first more low high : Nat} (byte : first < 256)
    (shaped : shape first = some (more, low, high)) (rest : Bytes) :
    next (UInt8.ofNat first) rest = symbolOf (follow more low high (leadBits more first) rest) := by
  have same : (UInt8.ofNat first).toNat = first := UInt8.toNat_ofNat_of_lt byte
  simp only [next, same, shaped, symbolOf]

theorem next_one {n : Nat} (below : n ≤ 0x7F) (rest : Bytes) :
    next (UInt8.ofNat n) rest = (some (Char.ofNat n), rest) := by
  have shaped : shape n = some (0, 0x80, 0xBF) := if_pos (by omega)
  exact next_shaped (by omega) shaped rest

theorem next_two {n : Nat} (above : 0x7F < n) (below : n ≤ 0x7FF) (rest : Bytes) :
    next (UInt8.ofNat (n / 64 % 0x20 + 0xC0)) (UInt8.ofNat (n % 0x40 + 0x80) :: rest)
      = (some (Char.ofNat n), rest) := by
  have shaped := shape_two (n / 64 % 0x20) (by omega) (by omega)
  have lead : leadBits 1 (n / 64 % 0x20 + 0xC0) = n / 64 % 0x20 := Nat.add_sub_cancel ..
  have value : n / 64 % 0x20 * 0x40 + n % 0x40 = n := by omega
  rw [next_shaped (by omega) shaped, lead, follow_last (by omega) (by omega) (by omega), value]
  rfl

theorem next_three {n : Nat} (above : 0x7FF < n) (below : n ≤ 0xFFFF)
    (whole : n < 0xD800 ∨ 0xDFFF < n) (rest : Bytes) :
    next (UInt8.ofNat (n / 4096 % 0x10 + 0xE0))
        (UInt8.ofNat (n / 64 % 0x40 + 0x80) :: UInt8.ofNat (n % 0x40 + 0x80) :: rest)
      = (some (Char.ofNat n), rest) := by
  have shaped := shape_three (n / 4096 % 0x10) (by omega)
  have lead : leadBits 2 (n / 4096 % 0x10 + 0xE0) = n / 4096 % 0x10 := Nat.add_sub_cancel ..
  have value : (n / 4096 % 0x10 * 0x40 + n / 64 % 0x40) * 0x40 + n % 0x40 = n := by omega
  rw [next_shaped (by omega) shaped, lead, follow_step (by omega) (by split <;> omega)
    (by split <;> omega), follow_last (by omega) (by omega) (by omega), value]
  rfl

theorem next_four {n : Nat} (above : 0xFFFF < n) (below : n < 0x110000) (rest : Bytes) :
    next (UInt8.ofNat (n / 262144 % 0x08 + 0xF0))
        (UInt8.ofNat (n / 4096 % 0x40 + 0x80) :: UInt8.ofNat (n / 64 % 0x40 + 0x80)
          :: UInt8.ofNat (n % 0x40 + 0x80) :: rest)
      = (some (Char.ofNat n), rest) := by
  have shaped := shape_four (n / 262144 % 0x08) (by omega)
  have lead : leadBits 3 (n / 262144 % 0x08 + 0xF0) = n / 262144 % 0x08 := Nat.add_sub_cancel ..
  have value : ((n / 262144 % 0x08 * 0x40 + n / 4096 % 0x40) * 0x40 + n / 64 % 0x40) * 0x40
      + n % 0x40 = n := by omega
  rw [next_shaped (by omega) shaped, lead, follow_step (by omega) (by split <;> omega)
    (by split <;> omega), follow_step (by omega) (by omega) (by omega),
    follow_last (by omega) (by omega) (by omega), value]
  rfl

theorem symbols_encoded (c : Char) (rest : Bytes) :
    symbols (String.utf8EncodeChar c ++ rest) = some c :: symbols rest := by
  have valid := c.valid
  change c.val.toNat < 0xD800 ∨ 0xDFFF < c.val.toNat ∧ c.val.toNat < 0x110000 at valid
  have read {first : UInt8} {others : Bytes}
      (given : next first (others ++ rest) = (some (Char.ofNat c.val.toNat), rest)) :
      symbols (first :: others ++ rest) = some c :: symbols rest := by
    have back : Char.ofNat c.val.toNat = c := Char.ofNat_toNat c
    rw [List.cons_append, symbols, given, back]
  fun_cases String.utf8EncodeChar c with
  | case1 n one => exact read (next_one one rest)
  | case2 n notOne two => exact read (next_two (by omega) two rest)
  | case3 n notOne notTwo three => exact read (next_three (by omega) three (by omega) rest)
  | case4 n notOne notTwo notThree => exact read (next_four (by omega) (by omega) rest)

theorem symbols_encodedEach (characters : List Char) :
    symbols (characters.flatMap String.utf8EncodeChar) = characters.map some := by
  induction characters with
  | nil => rw [List.flatMap_nil, symbols, List.map_nil]
  | cons c others ih => rw [List.flatMap_cons, symbols_encoded, ih, List.map_cons]

theorem toList_loop (bytes : ByteArray) (i : Nat) (done : Bytes) :
    ByteArray.toList.loop bytes i done = done.reverse ++ bytes.data.toList.drop i := by
  fun_induction ByteArray.toList.loop bytes i done with
  | case1 i done within ih =>
    have inside : i < bytes.data.toList.length := within
    have byte : bytes.get! i = bytes.data.toList[i] := getElem!_pos bytes.data i within
    rw [ih, List.drop_eq_getElem_cons inside, byte, List.reverse_cons, List.append_assoc,
      List.singleton_append]
  | case2 i done beyond =>
    have outside : bytes.data.toList.length ≤ i := Nat.le_of_not_lt beyond
    rw [List.drop_eq_nil_of_le outside, List.append_nil]

theorem bytesOf_eq (text : String) : bytesOf text = text.toList.flatMap String.utf8EncodeChar := by
  have stored : text.toUTF8.data.toList = text.toList.flatMap String.utf8EncodeChar := by
    rw [String.toUTF8_eq_toByteArray, ← String.utf8Encode_toList, List.utf8Encode,
      List.toList_data_toByteArray]
  rw [bytesOf, ByteArray.toList, toList_loop, stored]
  rfl

theorem symbols_bytesOf (text : String) : symbols (bytesOf text) = symbolsOf text := by
  rw [bytesOf_eq, symbols_encodedEach, symbolsOf]

end Utf8

end WatchfaceCheck.Text
