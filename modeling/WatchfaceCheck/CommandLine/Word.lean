import WatchfaceCheck.Path
namespace WatchfaceCheck

inductive Flag where
  | verbose
  | pretty
  | noColor
  | help
  | version
deriving DecidableEq, Repr

inductive Setting where
  | definition
  | maxWarnings
  | config
deriving DecidableEq, Repr

inductive Switch where
  | flag (flag : Flag)
  | setting (setting : Setting)
deriving DecidableEq, Repr

namespace Switch

def longNames : List (String × Switch) :=
  [("verbose", .flag .verbose), ("definition", .setting .definition), ("pretty", .flag .pretty),
   ("no-color", .flag .noColor), ("max-warnings", .setting .maxWarnings),
   ("config", .setting .config), ("help", .flag .help), ("version", .flag .version)]

def letters : List (Char × Switch) :=
  [('v', .flag .verbose), ('d', .setting .definition), ('h', .flag .help), ('V', .flag .version)]

end Switch

inductive Word where
  | separator
  | long (name : List Char) (attached : Option (List Char))
  | short (letters : List Char)
  | plain (text : String)
deriving DecidableEq, Repr

namespace Word

-- Whatever follows the first equals sign of a long option is its value.
def attached? (option : List Char) : Option (List Char) :=
  match option.dropWhile (· != '=') with
  | [] => none
  | _ :: value => some value

def read (text : String) : Word :=
  match text.toList with
  | ['-', '-'] => .separator
  | '-' :: '-' :: option => .long (option.takeWhile (· != '=')) (attached? option)
  | '-' :: letter :: letters => .short (letter :: letters)
  | _ => .plain text

end Word

end WatchfaceCheck
