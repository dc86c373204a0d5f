/-!
# ASCII case

The reserved words of the language are compared without regard to ASCII case only: no letter beyond
ASCII is ever folded onto them.
-/

namespace FilterLang.Text

/-- A string with its ASCII capitals made small and every other character kept. -/
def asciiLowered (s : String) : String := String.ofList (s.toList.map Char.toLower)

/-- Whether two strings agree up to ASCII case. -/
def sameWord (s t : String) : Bool := asciiLowered s == asciiLowered t

@[simp] theorem toList_asciiLowered (s : String) :
    (asciiLowered s).toList = s.toList.map Char.toLower := by
  simp [asciiLowered]

end FilterLang.Text
