import WatchfaceCheck.Text.Faint
namespace WatchfaceCheck.Text

def hexDigits (c : Char) : List Char := Nat.toDigits 16 c.toNat

def numberEscape (c : Char) : List Char := ['\\', 'u', '\x7b'] ++ hexDigits c ++ ['\x7d']

def quoteChar (c : Char) : List Char :=
  if c == '"' || c == '\\' then ['\\', c]
  else if c == '\n' then ['\\', 'n']
  else if c == '\r' then ['\\', 'r']
  else if c == '\t' then ['\\', 't']
  else if c == '\x00' then ['\\', '0']
  else if isFaint c then numberEscape c
  else [c]

def quoted (text : String) : String :=
  String.ofList (['"'] ++ text.toList.flatMap quoteChar ++ ['"'])

-- The controls that terminals act on, apart from those that only move on.
def isTerminalControl (c : Char) : Bool :=
  c == '\x07' || c == '\x08' || c == '\x0c' || c == '\x1b' || c == '\x7f'

def screenChar (c : Char) : List Char :=
  if isTerminalControl c then ['\\', 'x'] ++ (if c.toNat < 0x10 then ['0'] else []) ++ hexDigits c
  else if 0x80 ≤ c.toNat && c.toNat < 0xa0 then numberEscape c
  else [c]

def forScreen (text : String) : String := String.ofList (text.toList.flatMap screenChar)

end WatchfaceCheck.Text
