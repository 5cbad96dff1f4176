/-!
# ASCII letters

Case folding of the letters A to Z; every other character stays as it is.
-/

namespace Fleet.Text

def lower (s : String) : String := String.ofList (s.toList.map Char.toLower)

end Fleet.Text
