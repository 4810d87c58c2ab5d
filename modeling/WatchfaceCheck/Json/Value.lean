import WatchfaceCheck.Json.Number
import WatchfaceCheck.Text.Utf8
namespace WatchfaceCheck

open Text

inductive Json where
  | null
  | bool (b : Bool)
  | number (n : Json.Number)
  | string (symbols : List Symbol)
  | array (items : List Json)
  | object (members : List (List Symbol × Json))

namespace Json

def ofText (text : String) : Json := .string (symbolsOf text)

def ofTexts (texts : List String) : Json := .array (texts.map ofText)

def ofNat (n : Nat) : Json :=
  .number ⟨false, (Nat.toDigits 10 n).map fun c => c.toNat - 48, [], none⟩

def ofMembers (members : List (String × Json)) : Json :=
  .object (members.map fun member => (symbolsOf member.1, member.2))

end Json

end WatchfaceCheck
