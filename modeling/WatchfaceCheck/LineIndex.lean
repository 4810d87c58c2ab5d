import WatchfaceCheck.Dictionary
import WatchfaceCheck.Text.Split
import WatchfaceCheck.Text.Units
namespace WatchfaceCheck

open Text

-- Counted from zero. Offsets, lines and columns are numbers of 32 bits, and so are their sums.
structure Position where
  line : UInt32
  column : UInt32
deriving DecidableEq, Repr

structure Line where
  start : UInt32
  text : List Char
deriving DecidableEq, Repr

structure LineIndex where
  lines : List Line
deriving DecidableEq, Repr

namespace LineIndex

def trimReturns (line : List Char) : List Char := (line.reverse.dropWhile (· == '\r')).reverse

def unitCount (text : List Char) : UInt32 := UInt32.ofNat (units text)

def numbered (start : UInt32) : List (List Char) → List Line
  | [] => []
  | text :: others => ⟨start, text⟩ :: numbered (start + unitCount text + 1) others

def ofText (text : String) : LineIndex := ⟨numbered 0 (split '\n' text.toList)⟩

def lineCount (index : LineIndex) : Nat := index.lines.length

-- The lines that start at or before an offset; the last of them holds it. The starts ascend unless
-- a text has so many units that they begin again at zero.
def upTo (index : LineIndex) (offset : UInt32) : List Line :=
  index.lines.takeWhile fun line => line.start ≤ offset

def position (index : LineIndex) (offset : UInt32) : Position :=
  let before := index.upTo offset
  ⟨UInt32.ofNat (before.length - 1), offset - (before.getLast?.elim 0 Line.start)⟩

def lineText? (index : LineIndex) (line : Nat) : Option (List Char) :=
  index.lines[line]?.map fun line => trimReturns line.text

def lineUnits (index : LineIndex) (line : Nat) : UInt32 :=
  (index.lineText? line).elim 0 unitCount

end LineIndex

-- One index per file; the first text that is given for a file stays.
abbrev LineIndexes := Dictionary LineIndex

namespace LineIndexes

def add (indexes : LineIndexes) (file : String) (text : String) : LineIndexes :=
  match indexes.find? file with
  | some _ => indexes
  | none => indexes.insert file (LineIndex.ofText text)

end LineIndexes

end WatchfaceCheck
