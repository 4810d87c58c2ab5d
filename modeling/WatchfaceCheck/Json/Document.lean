import WatchfaceCheck.Json.Token
namespace WatchfaceCheck.Json

open Text

abbrev Member := List Symbol × Json

-- An open array or object with what it holds so far, last first. An object's frame waits for the
-- value under a name.
inductive Frame where
  | array (before : List Json)
  | object (before : List Member) (name : List Symbol)

inductive State where
  -- A value has to come.
  | value (frames : List Frame)
  -- An array was opened: its first value or its end has to come.
  | first (frames : List Frame)
  -- A name has to come, or the object's end if it was just opened.
  | name (before : List Member) (frames : List Frame) (opened : Bool)
  | colon (before : List Member) (name : List Symbol) (frames : List Frame)
  -- A value is complete.
  | after (value : Json) (frames : List Frame)

namespace State

def start : State := .value []

def takeValue (frames : List Frame) : Token → Option State
  | .openBrace => some (.name [] frames true)
  | .openBracket => some (.first frames)
  | .null => some (.after .null frames)
  | .bool b => some (.after (.bool b) frames)
  | .number n => some (.after (.number n) frames)
  | .string s => some (.after (.string s) frames)
  | _ => none

def takeAfter (done : Json) : List Frame → Token → Option State
  | .array before :: frames, .comma => some (.value (.array (done :: before) :: frames))
  | .array before :: frames, .closeBracket =>
    some (.after (.array (done :: before).reverse) frames)
  | .object before key :: frames, .comma => some (.name ((key, done) :: before) frames false)
  | .object before key :: frames, .closeBrace =>
    some (.after (.object ((key, done) :: before).reverse) frames)
  | _, _ => none

def step : State → Token → Option State
  | .value frames, token => takeValue frames token
  | .first frames, .closeBracket => some (.after (.array []) frames)
  | .first frames, token => takeValue (.array [] :: frames) token
  | .name before frames _, .string key => some (.colon before key frames)
  | .name before frames true, .closeBrace => some (.after (.object before.reverse) frames)
  | .name _ _ _, _ => none
  | .colon before key frames, .colon => some (.value (.object before key :: frames))
  | .colon _ _ _, _ => none
  | .after done frames, token => takeAfter done frames token

def run (state : State) (tokens : List Token) : Option State := tokens.foldlM step state

def finished? : State → Option Json
  | .after done [] => some done
  | _ => none

end State

def ofTokens? (tokens : List Token) : Option Json := (State.start.run tokens).bind State.finished?

-- A text that is not the document it should be is reported in these words, wherever it goes wrong.
def malformed : String := "not the expected document"

def read? (text : List Symbol) : Option Json := (Token.scan [] text).bind ofTokens?

end WatchfaceCheck.Json
