namespace WatchfaceCheck.Text

def occursIn (piece : List Char) : List Char → Bool
  | [] => piece.isEmpty
  | c :: rest => piece.isPrefixOf (c :: rest) || occursIn piece rest

theorem occursIn_iff {piece text : List Char} : occursIn piece text = true ↔ piece <:+: text := by
  induction text with
  | nil => simp [occursIn]
  | cons c rest ih => simp [occursIn, List.infix_cons_iff, ih]

def mentions (piece text : String) : Bool := occursIn piece.toList text.toList

end WatchfaceCheck.Text
