import WatchfaceCheck.Json.Document
import WatchfaceCheck.Text.Units
namespace WatchfaceCheck.Json

open Text

namespace Token

def HexDigit (n : Nat) (c : Char) : Prop :=
  n < 16 ∧ (c = Nat.digitChar n ∨ c = (Nat.digitChar n).toUpper)

instance (n : Nat) (c : Char) : Decidable (HexDigit n c) := inferInstanceAs (Decidable (_ ∧ _))

inductive EscapedUnit : Nat → List Char → Prop where
  | hex {a b c d : Nat} {first second third fourth : Char} : HexDigit a first → HexDigit b second →
      HexDigit c third → HexDigit d fourth →
      EscapedUnit (((a * 16 + b) * 16 + c) * 16 + d) ['\\', 'u', first, second, third, fourth]

inductive EscapedUnits : List Nat → List Char → Prop where
  | nil : EscapedUnits [] []
  | cons {unit : Nat} {units : List Nat} {text rest : List Char} : EscapedUnit unit text →
      EscapedUnits units rest → EscapedUnits (unit :: units) (text ++ rest)

def shortEscapes : List (Char × Char) :=
  [('"', '"'), ('\\', '\\'), ('/', '/'), ('b', '\x08'), ('f', '\x0c'), ('n', '\n'), ('r', '\r'),
    ('t', '\t')]

-- A character stands for itself, or is escaped by a letter or by its UTF-16 units.
inductive SpellsChar (c : Char) : List Char → Prop where
  | itself : 0x20 ≤ c.toNat → c ≠ '"' → c ≠ '\\' → SpellsChar c [c]
  | short {letter : Char} : (letter, c) ∈ shortEscapes → SpellsChar c ['\\', letter]
  | units {text : List Char} : EscapedUnits (utf16Char c) text → SpellsChar c text

def BeginsLow (text : List Char) : Prop :=
  ∃ low unit rest, isLow low = true ∧ EscapedUnit low unit ∧ text = unit ++ rest

-- An escaped half of a surrogate pair without its other half is a mark.
inductive SpellsSymbols : List Symbol → List Char → Prop where
  | nil : SpellsSymbols [] []
  | char {c : Char} {symbols : List Symbol} {text rest : List Char} : SpellsChar c text →
      SpellsSymbols symbols rest → SpellsSymbols (some c :: symbols) (text ++ rest)
  | low {unit : Nat} {symbols : List Symbol} {text rest : List Char} : isLow unit = true →
      EscapedUnit unit text → SpellsSymbols symbols rest →
      SpellsSymbols (none :: symbols) (text ++ rest)
  | high {unit : Nat} {symbols : List Symbol} {text rest : List Char} : isHigh unit = true →
      EscapedUnit unit text → ¬ BeginsLow rest → SpellsSymbols symbols rest →
      SpellsSymbols (none :: symbols) (text ++ rest)

def Decimals (digits : List Nat) : Prop := ∀ d ∈ digits, d < 10

instance (digits : List Nat) : Decidable (Decimals digits) := List.decidableBAll _ digits

def Whole (digits : List Nat) : Prop :=
  Decimals digits ∧ digits ≠ [] ∧ (digits.head? = some 0 → digits = [0])

instance (digits : List Nat) : Decidable (Whole digits) := inferInstanceAs (Decidable (_ ∧ _ ∧ _))

inductive SpellsFraction : List Nat → List Char → Prop where
  | absent : SpellsFraction [] []
  | digits {ds : List Nat} : ds ≠ [] → Decimals ds →
      SpellsFraction ds ('.' :: ds.map Nat.digitChar)

def signs : List (List Char × Bool) := [([], false), (['+'], false), (['-'], true)]

inductive SpellsExponent : Option Int → List Char → Prop where
  | absent : SpellsExponent none []
  | digits {mark : Char} {sign : List Char} {negative : Bool} {ds : List Nat} :
      mark ∈ ['e', 'E'] → (sign, negative) ∈ signs → ds ≠ [] → Decimals ds →
      SpellsExponent (some (if negative then -(Number.decimal ds : Int) else Number.decimal ds))
        (mark :: sign ++ ds.map Nat.digitChar)

inductive SpellsNumber : Number → List Char → Prop where
  | parts {negative : Bool} {whole fraction : List Nat} {exponent : Option Int}
      {point power : List Char} : Whole whole → SpellsFraction fraction point →
      SpellsExponent exponent power →
      SpellsNumber ⟨negative, whole, fraction, exponent⟩
        ((if negative then ['-'] else []) ++ whole.map Nat.digitChar ++ point ++ power)

inductive Spells : Token → List Char → Prop where
  | openBrace : Spells .openBrace ['\x7b']
  | closeBrace : Spells .closeBrace ['\x7d']
  | openBracket : Spells .openBracket ['[']
  | closeBracket : Spells .closeBracket [']']
  | colon : Spells .colon [':']
  | comma : Spells .comma [',']
  | null : Spells .null "null".toList
  | true : Spells (.bool true) "true".toList
  | false : Spells (.bool false) "false".toList
  | number {n : Number} {text : List Char} : SpellsNumber n text → Spells (.number n) text
  | string {symbols : List Symbol} {text : List Char} : SpellsSymbols symbols text →
      Spells (.string symbols) ('"' :: text ++ ['"'])

def Blanks (text : List Char) : Prop := ∀ c ∈ text, c ∈ [' ', '\t', '\n', '\r']

instance (text : List Char) : Decidable (Blanks text) := List.decidableBAll _ text

-- Tokens with any blanks before, between and after them.
inductive Laid : List Token → List Char → Prop where
  | done {blanks : List Char} : Blanks blanks → Laid [] blanks
  | next {token : Token} {tokens : List Token} {blanks text rest : List Char} : Blanks blanks →
      Spells token text → Laid tokens rest → Laid (token :: tokens) (blanks ++ text ++ rest)

end Token

mutual

def tokens : Json → List Token
  | .null => [.null]
  | .bool b => [.bool b]
  | .number n => [.number n]
  | .string s => [.string s]
  | .array items => .openBracket :: itemTokens items ++ [.closeBracket]
  | .object members => .openBrace :: memberTokens members ++ [.closeBrace]

def itemTokens : List Json → List Token
  | [] => []
  | [item] => tokens item
  | item :: other :: others => tokens item ++ .comma :: itemTokens (other :: others)

def memberTokens : List (List Symbol × Json) → List Token
  | [] => []
  | [(name, value)] => .string name :: .colon :: tokens value
  | (name, value) :: other :: others =>
    .string name :: .colon :: tokens value ++ .comma :: memberTokens (other :: others)

end

def Document (json : Json) (text : List Char) : Prop := Token.Laid json.tokens text

end WatchfaceCheck.Json
