import WatchfaceCheck.CommandLine.Item
namespace WatchfaceCheck

structure Arguments where
  files : List Path := []
  definitions : List Path := []
  pretty : Bool := false
  noColor : Bool := false
  maxWarnings : Option UInt64 := none
  config : Option Path := none
  verbosity : Nat := 0
deriving DecidableEq, Repr

namespace Arguments

def path? (text : String) : Except ArgumentError Path :=
  if text.isEmpty then .error .emptyPath else .ok ⟨text⟩

def digits (text : String) : List Char :=
  match text.toList with
  | '+' :: rest => rest
  | all => all

def decimal (digits : List Char) : Nat :=
  digits.foldl (fun value digit => value * 10 + (digit.toNat - '0'.toNat)) 0

def limit? (text : String) : Except ArgumentError UInt64 :=
  let number := digits text
  if !number.isEmpty && number.all Char.isDigit && decimal number < UInt64.size then
    .ok (UInt64.ofNat (decimal number))
  else .error (.notANumber text)

def withFlag (arguments : Arguments) : Flag → Except ArgumentError Arguments
  | .verbose => .ok { arguments with verbosity := arguments.verbosity + 1 }
  | .pretty =>
    if arguments.pretty then .error (.repeated "--pretty")
    else .ok { arguments with pretty := true }
  | .noColor =>
    if arguments.noColor then .error (.repeated "--no-color")
    else .ok { arguments with noColor := true }
  | .help => .ok arguments
  | .version => .ok arguments

def withSetting (arguments : Arguments) (setting : Setting) (value : String) :
    Except ArgumentError Arguments :=
  match setting with
  | .definition =>
    (path? value).map fun p => { arguments with definitions := arguments.definitions ++ [p] }
  | .maxWarnings =>
    if arguments.maxWarnings.isSome then .error (.repeated "--max-warnings")
    else (limit? value).map fun limit => { arguments with maxWarnings := some limit }
  | .config =>
    if arguments.config.isSome then .error (.repeated "--config")
    else (path? value).map fun p => { arguments with config := some p }

def withItem (arguments : Arguments) : Item → Except ArgumentError Arguments
  | .file text => (path? text).map fun p => { arguments with files := arguments.files ++ [p] }
  | .flag flag => arguments.withFlag flag
  | .setting setting value => arguments.withSetting setting value
  | .refused error => .error error

def color (arguments : Arguments) : Bool := !arguments.noColor

end Arguments

inductive CommandLine where
  | help
  | version
  | check (arguments : Arguments)
deriving DecidableEq, Repr

namespace CommandLine

def settle (arguments : Arguments) : List Item → Except ArgumentError CommandLine
  | [] => if arguments.files.isEmpty then .error .noFile else .ok (.check arguments)
  | .flag .help :: _ => .ok .help
  | .flag .version :: _ => .ok .version
  | item :: items =>
    match arguments.withItem item with
    | .error error => .error error
    | .ok arguments => settle arguments items

def read (words : List String) : Except ArgumentError CommandLine :=
  settle {} (Item.ofTexts none words)

def versionText : String := "rocky-lint 0.1.0\n"

def helpText : String := String.join (
  ["Check Rocky.js watchface scripts against the Rocky.js API\n",
   "\n",
   "Usage: rocky-lint [OPTIONS] <FILE>...\n",
   "\n",
   "Arguments:\n",
   "  <FILE>...  JavaScript or TypeScript files to check\n",
   "\n",
   "Options:\n",
   "  -v, --verbose...         Increase log verbosity (-v info, -vv debug, -vvv trace)\n",
   "  -d, --definition <PATH>  Declaration file to check against (repeatable, replaces the bundled one)\n",
   "      --pretty             Show the offending source line under each diagnostic\n",
   "      --no-color           Disable colored output\n",
   "      --max-warnings <N>   Fail when there are more warnings than this\n",
   "      --config <PATH>      Config file (defaults to ./rocky-lint.config.json)\n",
   "  -h, --help               Print help\n",
   "  -V, --version            Print version\n"])

end CommandLine

end WatchfaceCheck
