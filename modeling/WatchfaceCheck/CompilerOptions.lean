import WatchfaceCheck.Json.Printer
namespace WatchfaceCheck

structure CompilerOptions where
  target : String := "es5"
  lib : List String := ["es5", "dom"]
  allowUnreachableCode : Bool := true
  allowUnusedLabels : Bool := true
  noEmit : Bool := true
deriving DecidableEq, Repr

namespace CompilerOptions

def toJson (options : CompilerOptions) : Json :=
  .ofMembers [("target", .ofText options.target), ("lib", .ofTexts options.lib),
    ("allowUnreachableCode", .bool options.allowUnreachableCode),
    ("allowUnusedLabels", .bool options.allowUnusedLabels), ("noEmit", .bool options.noEmit)]

def toSortedJson (options : CompilerOptions) : Json :=
  .ofMembers [("allowUnreachableCode", .bool options.allowUnreachableCode),
    ("allowUnusedLabels", .bool options.allowUnusedLabels), ("lib", .ofTexts options.lib),
    ("noEmit", .bool options.noEmit), ("target", .ofText options.target)]

end CompilerOptions

end WatchfaceCheck
