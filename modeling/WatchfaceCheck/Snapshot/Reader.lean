import WatchfaceCheck.Json.Document
import WatchfaceCheck.Json.Record
import WatchfaceCheck.Snapshot
namespace WatchfaceCheck

open Text
open Json (text? natBelow? list? members? fields?)
open Json.Field

def uint32? (json : Json) : Option UInt32 := (natBelow? UInt32.size json).map UInt32.ofNat

def uint64? (json : Json) : Option UInt64 := (natBelow? UInt64.size json).map UInt64.ofNat

namespace Category

def ofJson? (json : Json) : Option Category := (natBelow? 256 json).bind ofCode?

end Category

namespace Message

def fieldNames : List String := ["code", "text", "category", "depth"]

def ofJson? (json : Json) : Option Message :=
  match fields? fieldNames json with
  | some [code, text, category, depth] => do
    let code ← required uint32? code
    let text ← required text? text
    let category ← required Category.ofJson? category
    let depth ← defaulted 0 uint64? depth
    return { code, text, category, depth }
  | _ => none

end Message

namespace Diagnostic

def fieldNames : List String := ["file", "start", "length", "category", "code", "chain"]

def ofJson? (json : Json) : Option Diagnostic :=
  match fields? fieldNames json with
  | some [file, start, length, category, code, chain] => do
    let file ← optional text? file
    let start ← defaulted 0 uint32? start
    let length ← defaulted 0 uint32? length
    let category ← required Category.ofJson? category
    let code ← required uint32? code
    let chain ← required (list? Message.ofJson?) chain
    return { file, start, length, category, code, chain }
  | _ => none

def read? (text : List Symbol) : Option Diagnostic := (Json.read? text).bind ofJson?

end Diagnostic

namespace Snapshot

def fieldNames : List String := ["options", "global", "syntactic", "semantic", "sources"]

-- Of a name that stands more than once, the last text counts.
def sources? (json : Json) : Option (Dictionary String) := do
  let members ← members? json
  let texts ← members.mapM fun member => (text? member.2).map fun text => (member.1, text)
  return Dictionary.ofList texts

def ofJson? (json : Json) : Option Snapshot :=
  match fields? fieldNames json with
  | some [options, global, syntactic, semantic, sources] => do
    let options ← defaulted [] (list? Diagnostic.ofJson?) options
    let global ← defaulted [] (list? Diagnostic.ofJson?) global
    let syntactic ← defaulted [] (list? Diagnostic.ofJson?) syntactic
    let semantic ← defaulted [] (list? Diagnostic.ofJson?) semantic
    let sources ← defaulted .empty sources? sources
    return { options, global, syntactic, semantic, sources }
  | _ => none

def read? (text : List Symbol) : Option Snapshot := (Json.read? text).bind ofJson?

end Snapshot

end WatchfaceCheck
