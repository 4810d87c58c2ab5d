import WatchfaceCheck.Located
import WatchfaceCheck.NameMap
import WatchfaceCheck.Palette
namespace WatchfaceCheck

open Text

inductive Location where
  | global
  | file (name : String) (position : Option Position)
deriving DecidableEq, Repr

namespace Location

-- Lines and columns are shown counting from one, still in 32 bits.
def text : Location → String
  | .global => "global"
  | .file name none => name
  | .file name (some position) =>
    s!"{name}({(position.line + 1).toNat},{(position.column + 1).toNat})"

end Location

structure Excerpt where
  number : Nat
  text : List Char
  column : Nat
  width : Nat
  severity : Severity
deriving DecidableEq, Repr

namespace Excerpt

def spaces (n : Nat) : String := String.ofList (List.replicate n ' ')

def gutter (palette : Palette) (content : String) : String :=
  palette.paint .muted (content ++ " |")

-- The second line stands under the first: its gutter is as wide, and a space stands for each unit
-- before the column.
def render (palette : Palette) (e : Excerpt) : String :=
  let number := toString e.number
  gutter palette number ++ " " ++ String.ofList e.text ++ "\n"
    ++ gutter palette (spaces number.length) ++ " " ++ spaces e.column
    ++ palette.paint e.severity.tone (String.ofList (List.replicate e.width '~')) ++ "\n"

end Excerpt

structure MessageLine where
  location : Location
  severity : Severity
  code : UInt32
  depth : UInt64
  text : String
deriving DecidableEq, Repr

namespace MessageLine

-- A text has less than 2^63 bytes, and an indent has two for each level of depth.
def depthLimit : Nat := 4611686018427387904

def indent? (line : MessageLine) : Option String :=
  if line.depth.toNat < depthLimit then some (Excerpt.spaces (2 * line.depth.toNat)) else none

def render? (palette : Palette) (line : MessageLine) : Option String :=
  line.indent?.map fun indent =>
    line.location.text ++ ": " ++ palette.label line.severity ++ " TS" ++ toString line.code.toNat
      ++ ": " ++ indent ++ line.text ++ "\n"

end MessageLine

inductive ReportItem where
  | excerpt (e : Excerpt)
  | message (line : MessageLine)
deriving DecidableEq, Repr

namespace ReportItem

def render? (palette : Palette) : ReportItem → Option String
  | .excerpt e => some (e.render palette)
  | .message line => line.render? palette

def fits : ReportItem → Bool
  | .excerpt _ => true
  | .message line => line.indent?.isSome

def severity? : ReportItem → Option Severity
  | .excerpt _ => none
  | .message line => some line.severity

end ReportItem

-- How many messages a report shows, by their worth. Those that only inform count in the total.
structure Tally where
  errors : Nat := 0
  warnings : Nat := 0
  total : Nat := 0
deriving DecidableEq, Repr

namespace Tally

def record (tally : Tally) : Severity → Tally
  | .error => { tally with errors := tally.errors + 1, total := tally.total + 1 }
  | .warning => { tally with warnings := tally.warnings + 1, total := tally.total + 1 }
  | .info => { tally with total := tally.total + 1 }

def ofSeverities (severities : List Severity) : Tally := severities.foldl record {}

end Tally

structure ReportOptions where
  pretty : Bool := false
  color : Bool := false
  suppression : Suppression := .nothing
deriving DecidableEq, Repr

namespace ReportOptions

def palette (options : ReportOptions) : Palette := ⟨options.color⟩

end ReportOptions

namespace Located

def location (names : NameMap) (found : Located) : Location :=
  match found.diagnostic.file with
  | none => .global
  | some file => .file (names.displayName file) found.position

def excerpt? (indexes : LineIndexes) (found : Located) (severity : Severity) : Option Excerpt := do
  let file ← found.diagnostic.file
  let position ← found.position
  let index ← indexes.find? file
  let text ← index.lineText? position.line.toNat
  return {
    number := (position.line + 1).toNat
    text
    column := position.column.toNat
    width := max 1 (min found.diagnostic.length.toNat
      ((index.lineUnits position.line.toNat).toNat - position.column.toNat))
    severity }

def messageLine (names : NameMap) (found : Located) (m : Message) : MessageLine where
  location := found.location names
  severity := m.severity found.phase
  code := m.code
  depth := m.depth
  text := m.shownText

def messageItems (names : NameMap) (found : Located) : List ReportItem :=
  found.diagnostic.messages.map fun m => .message (found.messageLine names m)

-- The excerpt above a diagnostic takes the severity of its first message; without messages there
-- is none.
def excerptItems (indexes : LineIndexes) (found : Located) : List ReportItem :=
  match found.diagnostic.messages with
  | [] => []
  | head :: _ => (found.excerpt? indexes (head.severity found.phase)).toList.map .excerpt

def items (options : ReportOptions) (names : NameMap) (indexes : LineIndexes) (found : Located) :
    List ReportItem :=
  (if options.pretty then found.excerptItems indexes else []) ++ found.messageItems names

end Located

structure Report where
  items : List ReportItem
deriving DecidableEq, Repr

namespace Report

def shown (suppression : Suppression) (found : List Located) : List Located :=
  found.filter fun one => !suppression.suppresses one.phase one.diagnostic

def ofLocated (options : ReportOptions) (names : NameMap) (indexes : LineIndexes)
    (found : List Located) : Report :=
  ⟨(shown options.suppression found).flatMap (Located.items options names indexes)⟩

-- Items are written one by one. The first that has no text breaks the report off, and a report that
-- breaks off is not counted.
def texts (palette : Palette) : List ReportItem → List String
  | [] => []
  | item :: others =>
    match item.render? palette with
    | none => []
    | some text => text :: texts palette others

def render (palette : Palette) (report : Report) : String :=
  String.join (texts palette report.items)

def isWhole (report : Report) : Bool := report.items.all ReportItem.fits

def count (report : Report) : Tally :=
  Tally.ofSeverities (report.items.filterMap ReportItem.severity?)

def tally? (report : Report) : Option Tally := if report.isWhole then some report.count else none

end Report

end WatchfaceCheck
