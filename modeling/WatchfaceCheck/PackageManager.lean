import WatchfaceCheck.Files
import WatchfaceCheck.Json.Plain
import WatchfaceCheck.Json.Record
namespace WatchfaceCheck

inductive PackageManager where
  | pnpm
  | npm
  | yarn
  | bun
deriving DecidableEq, Repr

namespace PackageManager

def name : PackageManager → String
  | .pnpm => "pnpm"
  | .npm => "npm"
  | .yarn => "yarn"
  | .bun => "bun"

def installCommand : PackageManager → String
  | .npm => "npm install -D typescript"
  | .pnpm => "pnpm add -D typescript"
  | .yarn => "yarn add -D typescript"
  | .bun => "bun add -D typescript"

-- The first lock file that is there decides.
def lockFiles : List (String × PackageManager) :=
  [("pnpm-lock.yaml", .pnpm), ("bun.lockb", .bun), ("bun.lock", .bun), ("yarn.lock", .yarn),
   ("package-lock.json", .npm)]

def ofDeclaration? (declared : String) : Option PackageManager :=
  [pnpm, yarn, bun, npm].find? fun manager => manager.name.toList.isPrefixOf declared.toList

def ofPackageText? (text : String) : Option PackageManager := do
  let json ← Json.readPlain? (Text.symbolsOf text)
  let declared ← json.member? "packageManager"
  ofDeclaration? (← declared.text?)

def detect (files : Files) (root : Path) : Option PackageManager :=
  match lockFiles.find? fun lock => files.contains (root.join ⟨lock.1⟩) with
  | some lock => some lock.2
  | none =>
    match files.readText (root.join ⟨"package.json"⟩) with
    | .ok text => ofPackageText? text
    | .error _ => none

end PackageManager

end WatchfaceCheck
