import WatchfaceCheck.Json.Document
namespace WatchfaceCheck.Json

open Text

mutual

def isPlain (depth : Nat) : Json → Bool
  | .null => true
  | .bool _ => true
  | .number n => n.isFinite
  | .string s => s.all Option.isSome
  | .array items =>
    match depth with
    | 0 => false
    | depth + 1 => arePlain depth items
  | .object members =>
    match depth with
    | 0 => false
    | depth + 1 => havePlain depth members

def arePlain (depth : Nat) : List Json → Bool
  | [] => true
  | item :: others => isPlain depth item && arePlain depth others

def havePlain (depth : Nat) : List (List Symbol × Json) → Bool
  | [] => true
  | (name, value) :: others =>
    name.all Option.isSome && isPlain depth value && havePlain depth others

end

def plainDepth : Nat := 127

def readPlain? (text : List Symbol) : Option Json := (read? text).filter (isPlain plainDepth)

def member? (name : String) : Json → Option Json
  | .object members => members.reverse.lookup (symbolsOf name)
  | _ => none

end WatchfaceCheck.Json
