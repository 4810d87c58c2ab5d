import WatchfaceCheck.Files
import WatchfaceCheck.Json.Document
import WatchfaceCheck.Json.Printer
import WatchfaceCheck.Json.Record
import WatchfaceCheck.Palette
namespace WatchfaceCheck

open Text
open Json (text? bool? natBelow? list? fields?)
open Json.Field

structure CheckConfig where
  definitions : List Path := []
  maxWarnings : Option UInt64 := none
  pretty : Bool := false
  suppressObjectLiteralProperty : Bool := false
  node : Option Path := none
  typescript : Option Path := none
deriving DecidableEq, Repr

namespace CheckConfig

def fieldNames : List String :=
  ["definitions", "maxWarnings", "pretty", "suppressObjectLiteralProperty", "node", "typescript"]

def path? (json : Json) : Option Path := (text? json).map Path.mk

def limit? (json : Json) : Option UInt64 := (natBelow? UInt64.size json).map UInt64.ofNat

def ofJson? (json : Json) : Option CheckConfig :=
  match fields? fieldNames json with
  | some [definitions, maxWarnings, pretty, suppress, node, typescript] => do
    let definitions ← defaulted [] (list? path?) definitions
    let maxWarnings ← optional limit? maxWarnings
    let pretty ← defaulted false bool? pretty
    let suppressObjectLiteralProperty ← defaulted false bool? suppress
    let node ← optional path? node
    let typescript ← optional path? typescript
    return { definitions, maxWarnings, pretty, suppressObjectLiteralProperty, node, typescript }
  | _ => none

def toJson (config : CheckConfig) : Json :=
  let member (name : String) (path : Option Path) : List (String × Json) :=
    path.toList.map fun p => (name, .ofText p.text)
  .ofMembers <|
    (if config.definitions.isEmpty then []
      else [("definitions", .ofTexts (config.definitions.map Path.text))])
    ++ config.maxWarnings.toList.map (fun limit => ("maxWarnings", .ofNat limit.toNat))
    ++ [("pretty", .bool config.pretty),
      ("suppressObjectLiteralProperty", .bool config.suppressObjectLiteralProperty)]
    ++ member "node" config.node ++ member "typescript" config.typescript

-- Paths in a file are meant from the directory that holds it.
def resolve (base : Path) (config : CheckConfig) : CheckConfig :=
  { config with
    definitions := config.definitions.map base.join
    node := config.node.map base.join
    typescript := config.typescript.map base.join }

end CheckConfig

structure Config where
  schema : Option String := none
  check : CheckConfig := {}
deriving DecidableEq, Repr

inductive ConfigWarning where
  | unreadable (path : Path) (cause : FileError)
  | malformed (path : Path)
deriving DecidableEq, Repr

namespace ConfigWarning

def detail : ConfigWarning → String
  | .unreadable path cause => "Failed to read " ++ path.text ++ ": " ++ cause.message
  | .malformed path => "Failed to parse " ++ path.text ++ ": " ++ Json.malformed

def message (palette : Palette) (warning : ConfigWarning) : String :=
  palette.paint .warning "Warning:" ++ " " ++ warning.detail

end ConfigWarning

namespace Config

def fileName : String := "rocky-lint.config.json"

def fieldNames : List String := ["$schema", "check"]

def ofJson? (json : Json) : Option Config :=
  match fields? fieldNames json with
  | some [schema, check] => do
    let schema ← optional text? schema
    let check ← defaulted {} CheckConfig.ofJson? check
    return { schema, check }
  | _ => none

def read? (text : String) : Option Config := (Json.read? (symbolsOf text)).bind ofJson?

def toJson (config : Config) : Json :=
  .ofMembers (config.schema.toList.map (fun schema => ("$schema", .ofText schema))
    ++ [("check", config.check.toJson)])

def resolve (base : Path) (config : Config) : Config :=
  { config with check := config.check.resolve base }

def path (explicit : Option Path) (directory : Path) : Path :=
  directory.join (explicit.getD ⟨fileName⟩)

def base (directory path : Path) : Path := path.parent?.getD directory

def readAt (files : Files) (directory path : Path) : Except ConfigWarning Config :=
  match files.readText path with
  | .error e => .error (.unreadable path e)
  | .ok text =>
    match read? text with
    | none => .error (.malformed path)
    | some config => .ok (config.resolve (base directory path))

-- A file that is named is read in any case, the one of the usual name only if it is there.
def isSought (files : Files) (explicit : Option Path) (directory : Path) : Bool :=
  explicit.isSome || files.contains (path explicit directory)

def load (files : Files) (explicit : Option Path) (directory : Path) :
    Except ConfigWarning Config :=
  if isSought files explicit directory then readAt files directory (path explicit directory)
  else .ok {}

def orDefault : Except ConfigWarning Config → Config
  | .error _ => {}
  | .ok config => config

end Config

end WatchfaceCheck
