import WatchfaceCheck.CommandLine.Word
namespace WatchfaceCheck

inductive ArgumentError where
  | unknown (option : String)
  | withoutValue (setting : Setting)
  | unwantedValue (option : String)
  | repeated (option : String)
  | emptyPath
  | notANumber (text : String)
  | noFile
deriving DecidableEq, Repr

namespace ArgumentError

def settingName : Setting → String
  | .definition => "--definition"
  | .maxWarnings => "--max-warnings"
  | .config => "--config"

def message : ArgumentError → String
  | .unknown option => "unknown option " ++ option
  | .withoutValue setting => settingName setting ++ " needs a value"
  | .unwantedValue option => option ++ " takes no value"
  | .repeated option => option ++ " was given more than once"
  | .emptyPath => "a path must not be empty"
  | .notANumber text => "not a number of warnings: " ++ text
  | .noFile => "no FILE was given"

end ArgumentError

inductive Item where
  | file (text : String)
  | flag (flag : Flag)
  | setting (setting : Setting) (value : String)
  | refused (error : ArgumentError)
deriving DecidableEq, Repr

structure Reading where
  items : List Item := []
  waiting : Option Setting := none
deriving DecidableEq, Repr

namespace Reading

def ofLong (name : List Char) (attached : Option (List Char)) : Reading :=
  let shown := "--" ++ String.ofList name
  match Switch.longNames.lookup (String.ofList name), attached with
  | none, _ => { items := [.refused (.unknown shown)] }
  | some (.flag flag), none => { items := [.flag flag] }
  | some (.flag _), some _ => { items := [.refused (.unwantedValue shown)] }
  | some (.setting setting), none => { waiting := some setting }
  | some (.setting setting), some value =>
    { items := [.setting setting (String.ofList value)] }

-- A value may stand right behind its letter, with or without an equals sign.
def ofRest (setting : Setting) : List Char → Reading
  | [] => { waiting := some setting }
  | '=' :: value => { items := [.setting setting (String.ofList value)] }
  | value => { items := [.setting setting (String.ofList value)] }

def ofLetters : List Char → Reading
  | [] => {}
  | letter :: others =>
    match Switch.letters.lookup letter with
    | none => { items := [.refused (.unknown (String.ofList ['-', letter]))] }
    | some (.setting setting) => ofRest setting others
    | some (.flag flag) =>
      { ofLetters others with items := .flag flag :: (ofLetters others).items }

end Reading

namespace Item

-- A value that is a word of its own must not look like an option. After the separator every word
-- is a file.
def ofTexts (waiting : Option Setting) : List String → List Item
  | [] => waiting.toList.map fun option => .refused (.withoutValue option)
  | text :: texts =>
    match Word.read text, waiting with
    | .plain text, some option => .setting option text :: ofTexts none texts
    | .plain text, none => .file text :: ofTexts none texts
    | _, some option => [.refused (.withoutValue option)]
    | .separator, none => texts.map .file
    | .long name attached, none =>
      (Reading.ofLong name attached).items
        ++ ofTexts (Reading.ofLong name attached).waiting texts
    | .short letters, none =>
      (Reading.ofLetters letters).items ++ ofTexts (Reading.ofLetters letters).waiting texts

end Item

end WatchfaceCheck
