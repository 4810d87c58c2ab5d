import WatchfaceCheck.Json.Value
namespace WatchfaceCheck.Json

open Text

def hexDigit (n : Nat) : Char := if n < 10 then Char.ofNat (48 + n) else Char.ofNat (87 + n)

-- Quotes, backslashes and control characters are escaped, everything else stands for itself.
-- A mark is written as a surrogate that nothing pairs with.
def writeSymbol : Symbol → List Char
  | none => "\\ud800".toList
  | some c =>
    if c = '"' then ['\\', '"']
    else if c = '\\' then ['\\', '\\']
    else if c = '\x08' then ['\\', 'b']
    else if c = '\x0c' then ['\\', 'f']
    else if c = '\n' then ['\\', 'n']
    else if c = '\r' then ['\\', 'r']
    else if c = '\t' then ['\\', 't']
    else if c.toNat < 0x20 then
      ['\\', 'u', '0', '0', hexDigit (c.toNat / 16), hexDigit (c.toNat % 16)]
    else [c]

def writeString (symbols : List Symbol) : List Char :=
  ['"'] ++ symbols.flatMap writeSymbol ++ ['"']

def writeInt (n : Int) : List Char := (toString n).toList

def writeNumber (n : Number) : List Char :=
  (if n.negative then ['-'] else []) ++ n.whole.flatMap (fun d => (toString d).toList)
    ++ (if n.fraction.isEmpty then [] else '.' :: n.fraction.flatMap (fun d => (toString d).toList))
    ++ (match n.exponent with
      | none => []
      | some e => 'e' :: writeInt e)

structure Layout where
  before : Nat → List Char
  colon : List Char

namespace Layout

def compact : Layout := ⟨fun _ => [], [':']⟩

def indented : Layout := ⟨fun depth => '\n' :: List.replicate (2 * depth) ' ', [':', ' ']⟩

end Layout

def separated (before : List Char) : List (List Char) → List Char
  | [] => []
  | [entry] => before ++ entry
  | entry :: others => before ++ entry ++ [','] ++ separated before others

def bracketed (layout : Layout) (depth : Nat) (opening closing : Char)
    (entries : List (List Char)) : List Char :=
  if entries.isEmpty then [opening, closing]
  else
    [opening] ++ separated (layout.before (depth + 1)) entries ++ layout.before depth ++ [closing]

mutual

def write (layout : Layout) (depth : Nat) : Json → List Char
  | .null => "null".toList
  | .bool true => "true".toList
  | .bool false => "false".toList
  | .number n => writeNumber n
  | .string s => writeString s
  | .array items => bracketed layout depth '[' ']' (writeItems layout (depth + 1) items)
  | .object members =>
    bracketed layout depth '\x7b' '\x7d' (writeMembers layout (depth + 1) members)

def writeItems (layout : Layout) (depth : Nat) : List Json → List (List Char)
  | [] => []
  | item :: others => write layout depth item :: writeItems layout depth others

def writeMembers (layout : Layout) (depth : Nat) : List (List Symbol × Json) → List (List Char)
  | [] => []
  | (name, value) :: others =>
    (writeString name ++ layout.colon ++ write layout depth value)
      :: writeMembers layout depth others

end

def compact (json : Json) : String := String.ofList (json.write .compact 0)

def pretty (json : Json) : String := String.ofList (json.write .indented 0)

end WatchfaceCheck.Json
