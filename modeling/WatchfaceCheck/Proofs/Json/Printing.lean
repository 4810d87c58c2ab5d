import WatchfaceCheck.Json.Printer
import WatchfaceCheck.Proofs.Json.Digits
import WatchfaceCheck.Proofs.Json.Lexing
namespace WatchfaceCheck.Json

open Text

namespace Token

theorem Blanks.append {a b : List Char} (first : Blanks a) (second : Blanks b) :
    Blanks (a ++ b) := List.forall_mem_append.mpr ⟨first, second⟩

theorem blanks_nil : Blanks [] := List.forall_mem_nil _

theorem Laid.single {token : Token} {text : List Char} (spells : Spells token text) :
    Laid [token] text := by
  have laid := Laid.next blanks_nil spells (.done blanks_nil)
  rwa [List.nil_append, List.append_nil] at laid

theorem Laid.indent {tokens : List Token} {blanks text : List Char} (spaces : Blanks blanks)
    (laid : Laid tokens text) : Laid tokens (blanks ++ text) := by
  cases laid with
  | done more => exact .done (spaces.append more)
  | next more spells later =>
    rw [← List.append_assoc, ← List.append_assoc]
    exact .next (spaces.append more) spells later

theorem Laid.append {first second : List Token} {text rest : List Char} (laid : Laid first text)
    (later : Laid second rest) : Laid (first ++ second) (text ++ rest) := by
  induction laid with
  | done spaces => exact later.indent spaces
  | next spaces spells _ ih =>
    rw [List.cons_append, List.append_assoc]
    exact .next spaces spells ih

theorem hexDigit_written {n : Nat} (below : n < 16) : HexDigit n (hexDigit n) := by
  have table : ∀ n < 16, hexDigit n = Nat.digitChar n := by decide
  exact ⟨below, .inl (table n below)⟩

theorem writeSymbol_cases (c : Char) :
    (∃ letter, (letter, c) ∈ shortEscapes ∧ writeSymbol (some c) = ['\\', letter])
    ∨ (c.toNat < 0x20 ∧ writeSymbol (some c)
      = ['\\', 'u', '0', '0', hexDigit (c.toNat / 16), hexDigit (c.toNat % 16)])
    ∨ (0x20 ≤ c.toNat ∧ c ≠ '"' ∧ c ≠ '\\' ∧ writeSymbol (some c) = [c]) := by
  by_cases short : c ∈ ['"', '\\', '\x08', '\x0c', '\n', '\r', '\t']
  · refine .inl ?_
    simp only [List.mem_cons, List.not_mem_nil, or_false] at short
    rcases short with rfl | rfl | rfl | rfl | rfl | rfl | rfl
    all_goals exact ⟨_, by decide, rfl⟩
  · refine .inr ?_
    simp only [List.mem_cons, List.not_mem_nil, or_false, not_or] at short
    obtain ⟨quote, slash, backspace, page, feed, line, tab⟩ := short
    unfold writeSymbol
    simp only [if_neg quote, if_neg slash, if_neg backspace, if_neg page, if_neg feed, if_neg line,
      if_neg tab]
    by_cases control : c.toNat < 0x20
    · exact .inl ⟨control, if_pos control⟩
    · exact .inr ⟨Nat.le_of_not_lt control, quote, slash, if_neg control⟩

theorem spellsChar_written (c : Char) : SpellsChar c (writeSymbol (some c)) := by
  rcases writeSymbol_cases c with ⟨letter, listed, written⟩ | ⟨control, written⟩
    | ⟨visible, unquoted, unslashed, written⟩
  all_goals rw [written]
  · exact .short listed
  · have zero : HexDigit 0 '0' := hexDigit_written (by decide)
    have high : HexDigit (c.toNat / 16) _ := hexDigit_written (by omega)
    have low : HexDigit (c.toNat % 16) _ := hexDigit_written (by omega)
    have escaped := EscapedUnit.hex zero zero high low
    have value : ((0 * 16 + 0) * 16 + c.toNat / 16) * 16 + c.toNat % 16 = c.toNat := by omega
    have basic : utf16Char c = [c.toNat] := if_pos (by omega)
    rw [value] at escaped
    refine .units ?_
    rw [basic]
    exact .cons escaped .nil
  · exact .itself visible unquoted unslashed

theorem beginsLow_digits {text : List Char} (begins : BeginsLow text) :
    ∃ first second others,
      text = '\\' :: 'u' :: first :: second :: others ∧ first ≠ '0' ∧ second ≠ '8' := by
  obtain ⟨low, unit, rest, half, escaped, rfl⟩ := begins
  simp only [isLow, Bool.and_eq_true, decide_eq_true_eq] at half
  cases escaped with
  | @hex a b c d first second _ _ ha hb hc hd =>
    have third := hc.1
    have fourth := hd.1
    refine ⟨first, second, _, rfl, ?_, ?_⟩
    · rintro rfl
      have zero : 0 = a := Option.some.inj (hexDigit?_eq ha)
      have belowSixteen := hb.1
      omega
    · rintro rfl
      have eight : 8 = b := Option.some.inj (hexDigit?_eq hb)
      omega

-- No escape that is written stands for the second half of a pair.
theorem not_beginsLow_written (symbols : List Symbol) :
    ¬ BeginsLow (symbols.flatMap writeSymbol) := by
  intro begins
  obtain ⟨first, second, others, same, notZero, notEight⟩ := beginsLow_digits begins
  cases symbols with
  | nil => cases same
  | cons symbol rest =>
    rw [List.flatMap_cons] at same
    cases symbol with
    | none =>
      cases same
      exact notEight rfl
    | some c =>
      rcases writeSymbol_cases c with ⟨letter, listed, written⟩ | ⟨_, written⟩
        | ⟨_, _, unslashed, written⟩
      all_goals rw [written] at same
      · have table : ∀ row ∈ shortEscapes, row.1 ≠ 'u' := by decide
        exact table _ listed (List.cons.inj (List.cons.inj same).2).1
      · cases same
        exact notZero rfl
      · exact unslashed (List.cons.inj same).1

theorem spellsSymbols_written (symbols : List Symbol) :
    SpellsSymbols symbols (symbols.flatMap writeSymbol) := by
  induction symbols with
  | nil => exact .nil
  | cons symbol rest ih =>
    rw [List.flatMap_cons]
    cases symbol with
    | some c => exact .char (spellsChar_written c) ih
    | none =>
      have written {n : Nat} (below : n < 16) := hexDigit_written below
      have escaped : EscapedUnit 0xD800 (writeSymbol none) :=
        .hex (written (n := 13) (by decide)) (written (n := 8) (by decide))
          (written (n := 0) (by decide)) (written (n := 0) (by decide))
      exact .high (by decide) escaped (not_beginsLow_written rest) ih

theorem flatMap_digits {digits : List Nat} (decimals : Decimals digits) :
    (digits.flatMap fun d => (toString d).toList) = digits.map Nat.digitChar := by
  induction digits with
  | nil => rfl
  | cons d others ih =>
    have one : (toString d).toList = [Nat.digitChar d] := by
      rw [Nat.toString_eq_repr, Nat.toList_repr,
        Nat.toDigits_of_lt_base (decimals d List.mem_cons_self)]
    rw [List.flatMap_cons, one, ih fun other listed => decimals other (List.mem_cons_of_mem _ listed),
      List.map_cons, List.singleton_append]

theorem spellsExponent_written (exponent : Option Int) :
    SpellsExponent exponent (match exponent with
      | none => []
      | some e => 'e' :: writeInt e) := by
  -- A plus sign is never written, so that the two cases differ in the sign only.
  have power {sign : List Char} {negative : Bool} (n : Nat) (signed : (sign, negative) ∈ signs) :
      SpellsExponent (some (if negative then -(n : Int) else n))
        ('e' :: sign ++ Nat.toDigits 10 n) := by
    have spells := SpellsExponent.digits (List.mem_cons_self (a := 'e') (l := ['E'])) signed
      (digitsOf_ne_nil n) (decimals_digitsOf n)
    rwa [decimal_digitsOf, map_digitChar_digitsOf] at spells
  cases exponent with
  | none => exact .absent
  | some e =>
    cases e with
    | ofNat n =>
      have written : writeInt (.ofNat n) = Nat.toDigits 10 n := Nat.toList_repr
      change SpellsExponent _ ('e' :: writeInt (.ofNat n))
      rw [written]
      exact power n (.head _)
    | negSucc n =>
      have written : writeInt (.negSucc n) = '-' :: Nat.toDigits 10 (n + 1) := by
        change ("-" ++ (n + 1).repr).toList = _
        rw [String.toList_append, Nat.toList_repr]
        rfl
      change SpellsExponent _ ('e' :: writeInt (.negSucc n))
      rw [written]
      exact power (n + 1) (.tail _ (.tail _ (.head _)))

theorem spellsNumber_written {n : Number} (whole : Whole n.whole) (decimals : Decimals n.fraction) :
    SpellsNumber n (writeNumber n) := by
  obtain ⟨negative, digits, fraction, exponent⟩ := n
  have point : SpellsFraction fraction (if fraction.isEmpty then []
      else '.' :: fraction.flatMap fun d => (toString d).toList) := by
    cases fraction with
    | nil => exact .absent
    | cons d others =>
      rw [flatMap_digits decimals]
      exact .digits (List.cons_ne_nil d others) decimals
  have spells : SpellsNumber ⟨negative, digits, fraction, exponent⟩ _ :=
    .parts whole point (spellsExponent_written exponent)
  rwa [← flatMap_digits whole.1] at spells

def IsSound : Token → Prop
  | number n => Whole n.whole ∧ Decimals n.fraction
  | _ => True

instance : DecidablePred IsSound
  | number _ => inferInstanceAs (Decidable (_ ∧ _))
  | openBrace | closeBrace | openBracket | closeBracket | colon | comma | null | bool _
  | string _ => isTrue trivial

def Sound (tokens : List Token) : Prop := ∀ token ∈ tokens, token.IsSound

instance (tokens : List Token) : Decidable (Sound tokens) := List.decidableBAll _ tokens

theorem Sound.mono {few many : List Token} (sound : Sound many) (fewer : few ⊆ many) : Sound few :=
  fun token listed => sound token (fewer listed)

theorem Sound.append {a b : List Token} (first : Sound a) (second : Sound b) : Sound (a ++ b) :=
  List.forall_mem_append.mpr ⟨first, second⟩

theorem Sound.cons {token : Token} {tokens : List Token} (one : token.IsSound)
    (sound : Sound tokens) : Sound (token :: tokens) := List.forall_mem_cons.mpr ⟨one, sound⟩

theorem sound_nil : Sound [] := List.forall_mem_nil _

end Token

theorem sound_ofNat (n : Nat) : Token.Sound (ofNat n).tokens :=
  .cons ⟨whole_digitsOf n, List.forall_mem_nil _⟩ Token.sound_nil

theorem sound_ofText (text : String) : Token.Sound (ofText text).tokens :=
  .cons trivial Token.sound_nil

theorem sound_itemTokens : ∀ {items : List Json}, (∀ item ∈ items, Token.Sound item.tokens) →
    Token.Sound (itemTokens items)
  | [], _ => Token.sound_nil
  | [item], each => each item (.head _)
  | item :: _ :: _, each =>
    .append (each item (.head _))
      (.cons trivial (sound_itemTokens fun other listed => each other (.tail _ listed)))

theorem sound_array {items : List Json} (each : ∀ item ∈ items, Token.Sound item.tokens) :
    Token.Sound (Json.array items).tokens :=
  .append (.cons trivial (sound_itemTokens each)) (.cons trivial Token.sound_nil)

theorem sound_memberTokens : ∀ {members : List (List Symbol × Json)},
    (∀ member ∈ members, Token.Sound member.2.tokens) → Token.Sound (memberTokens members)
  | [], _ => Token.sound_nil
  | [member], each => .cons trivial (.cons trivial (each member (.head _)))
  | member :: _ :: _, each =>
    .append (.cons trivial (.cons trivial (each member (.head _))))
      (.cons trivial (sound_memberTokens fun other listed => each other (.tail _ listed)))

theorem sound_ofMembers {members : List (String × Json)}
    (each : ∀ member ∈ members, Token.Sound member.2.tokens) :
    Token.Sound (ofMembers members).tokens := by
  refine .append (.cons trivial (sound_memberTokens ?_)) (.cons trivial Token.sound_nil)
  intro named listed
  obtain ⟨member, given, rfl⟩ := List.mem_map.mp listed
  exact each member given

structure Layout.IsBlank (layout : Layout) : Prop where
  before : ∀ depth, Token.Blanks (layout.before depth)
  colon : Token.Laid [.colon] layout.colon

theorem Layout.isBlank_compact : Layout.compact.IsBlank :=
  ⟨fun _ => Token.blanks_nil, .single .colon⟩

theorem Layout.isBlank_indented : Layout.indented.IsBlank := by
  refine ⟨?_, ?_⟩
  · intro depth c listed
    rcases List.mem_cons.mp listed with rfl | space
    · decide
    · rw [(List.mem_replicate.mp space).2]
      decide
  · have space : Token.Laid [] [' '] := .done (by simp [Token.Blanks])
    exact (Token.Laid.single .colon).append space

theorem laid_bracketed {layout : Layout} (blank : layout.IsBlank) (depth : Nat)
    {opening closing : Token} {first last : Char} (opens : opening.Spells [first])
    (closes : closing.Spells [last]) {tokens : List Token} {entries : List (List Char)}
    (laid : Token.Laid tokens (separated (layout.before (depth + 1)) entries)) :
    Token.Laid (opening :: tokens ++ [closing]) (bracketed layout depth first last entries) := by
  have opened := (Token.Laid.single opens).append laid
  unfold bracketed
  cases entries with
  | nil => exact opened.append (.single closes)
  | cons entry others =>
    have closed := (Token.Laid.single closes).indent (blank.before depth)
    have whole := opened.append closed
    rwa [← List.append_assoc] at whole

theorem laid_member {layout : Layout} (blank : layout.IsBlank) (name : List Symbol)
    {tokens : List Token} {text : List Char} (laid : Token.Laid tokens text) :
    Token.Laid (.string name :: .colon :: tokens) (writeString name ++ layout.colon ++ text) :=
  ((Token.Laid.single (.string (Token.spellsSymbols_written name))).append blank.colon).append laid

theorem laid_comma {first second : List Token} {text rest : List Char}
    (laid : Token.Laid first text) (later : Token.Laid second rest) :
    Token.Laid (first ++ .comma :: second) (text ++ [','] ++ rest) := by
  rw [List.append_assoc]
  exact laid.append ((Token.Laid.single .comma).append later)

mutual

theorem laid_write {layout : Layout} (blank : layout.IsBlank) : ∀ (json : Json) (depth : Nat),
    Token.Sound json.tokens → Token.Laid json.tokens (json.write layout depth)
  | .null, _, _ => .single .null
  | .bool true, _, _ => .single .true
  | .bool false, _, _ => .single .false
  | .number n, _, sound => by
    obtain ⟨whole, decimals⟩ := sound (.number n) (.head _)
    exact .single (.number (Token.spellsNumber_written whole decimals))
  | .string s, _, _ => .single (.string (Token.spellsSymbols_written s))
  | .array items, depth, sound =>
    laid_bracketed blank depth .openBracket .closeBracket
      (laid_items blank items (depth + 1) (blank.before (depth + 1))
        (sound.mono fun _ listed => List.mem_cons_of_mem _ (List.mem_append_left _ listed)))
  | .object members, depth, sound =>
    laid_bracketed blank depth .openBrace .closeBrace
      (laid_members blank members (depth + 1) (blank.before (depth + 1))
        (sound.mono fun _ listed => List.mem_cons_of_mem _ (List.mem_append_left _ listed)))

theorem laid_items {layout : Layout} (blank : layout.IsBlank) :
    ∀ (items : List Json) (depth : Nat) {before : List Char},
    Token.Blanks before → Token.Sound (itemTokens items) →
      Token.Laid (itemTokens items) (separated before (writeItems layout depth items))
  | [], _, _, _, _ => .done Token.blanks_nil
  | [item], depth, _, spaces, sound => (laid_write blank item depth sound).indent spaces
  | item :: other :: others, depth, _, spaces, sound =>
    have one := laid_write blank item depth (sound.mono (List.subset_append_left ..))
    have more := laid_items blank (other :: others) depth spaces (sound.mono fun _ listed =>
      List.mem_append_right _ (List.mem_cons_of_mem _ listed))
    laid_comma (one.indent spaces) more

theorem laid_members {layout : Layout} (blank : layout.IsBlank) :
    ∀ (members : List (List Symbol × Json)) (depth : Nat) {before : List Char},
    Token.Blanks before → Token.Sound (memberTokens members) →
      Token.Laid (memberTokens members) (separated before (writeMembers layout depth members))
  | [], _, _, _, _ => .done Token.blanks_nil
  | [(name, value)], depth, _, spaces, sound =>
    have held := laid_write blank value depth (sound.mono fun _ listed =>
      List.mem_cons_of_mem _ (List.mem_cons_of_mem _ listed))
    (laid_member blank name held).indent spaces
  | (name, value) :: other :: others, depth, _, spaces, sound =>
    have held := laid_write blank value depth (sound.mono fun _ listed =>
      List.mem_append_left _ (List.mem_cons_of_mem _ (List.mem_cons_of_mem _ listed)))
    have more := laid_members blank (other :: others) depth spaces (sound.mono fun _ listed =>
      List.mem_append_right _ (List.mem_cons_of_mem _ listed))
    laid_comma ((laid_member blank name held).indent spaces) more

end

theorem document_write {layout : Layout} (blank : layout.IsBlank) {json : Json}
    (sound : Token.Sound json.tokens) : Document json (json.write layout 0) :=
  laid_write blank json 0 sound

theorem document_compact {json : Json} (sound : Token.Sound json.tokens) :
    Document json json.compact.toList := by
  rw [compact, String.toList_ofList]
  exact document_write Layout.isBlank_compact sound

theorem document_pretty {json : Json} (sound : Token.Sound json.tokens) :
    Document json json.pretty.toList := by
  rw [pretty, String.toList_ofList]
  exact document_write Layout.isBlank_indented sound

end WatchfaceCheck.Json
