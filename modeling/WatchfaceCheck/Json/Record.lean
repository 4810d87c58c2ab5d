import WatchfaceCheck.Json.Value
namespace WatchfaceCheck.Json

open Text

def text? : Json → Option String
  | .string symbols => whole? symbols
  | _ => none

def bool? : Json → Option Bool
  | .bool b => some b
  | _ => none

def natBelow? (bound : Nat) : Json → Option Nat
  | .number n => n.nat?.filter (· < bound)
  | _ => none

def list? {α : Type} (item? : Json → Option α) : Json → Option (List α)
  | .array items => items.mapM item?
  | _ => none

def members? : Json → Option (List (String × Json))
  | .object members => members.mapM fun member => (whole? member.1).map fun name => (name, member.2)
  | _ => none

def occurrences (name : String) (members : List (String × Json)) : Nat :=
  (members.filter fun member => member.1 == name).length

def fields? (names : List String) (json : Json) : Option (List (Option Json)) :=
  match json with
  | .array items =>
    if items.length ≤ names.length then
      some (items.map some ++ List.replicate (names.length - items.length) none)
    else none
  | json =>
    match members? json with
    | none => none
    | some members =>
      if names.all fun name => occurrences name members ≤ 1 then
        some (names.map fun name => members.lookup name)
      else none

namespace Field

variable {α : Type}

def required (value? : Json → Option α) : Option Json → Option α
  | none => none
  | some json => value? json

def defaulted (absent : α) (value? : Json → Option α) : Option Json → Option α
  | none => some absent
  | some json => value? json

-- Null means absent.
def optional (value? : Json → Option α) : Option Json → Option (Option α)
  | none => some none
  | some .null => some none
  | some json => (value? json).map some

end Field

end WatchfaceCheck.Json
