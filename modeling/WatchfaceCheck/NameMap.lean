import WatchfaceCheck.Dictionary
namespace WatchfaceCheck

abbrev NameMap := Dictionary String

namespace NameMap

def displayName (names : NameMap) (name : String) : String := (names.find? name).getD name

end NameMap

end WatchfaceCheck
