import FilterLang.Text.CodeSet

/-!
# Blank characters and trimming

A blank is a character with the `White_Space` property: more than the four that core's
`Char.isWhitespace` knows, since it includes the vertical tab, the form feed, the next-line
character, the no-break space and the typographic spaces.
-/

namespace FilterLang.Text

/-- The code points with the `White_Space` property. -/
def blankRanges : CodeSet := [
  (0x9, 0xD), (0x20, 0x20), (0x85, 0x85), (0xA0, 0xA0), (0x1680, 0x1680), (0x2000, 0x200A),
  (0x2028, 0x2029), (0x202F, 0x202F), (0x205F, 0x205F), (0x3000, 0x3000)]

/-- Whether `c` is white space. -/
def isBlank (c : Char) : Bool := blankRanges.contains c

/-- The characters without the blanks at their end. -/
def trimRight (cs : List Char) : List Char := (cs.reverse.dropWhile isBlank).reverse

/-- The characters without the blanks at either end. -/
def trim (cs : List Char) : List Char := trimRight (cs.dropWhile isBlank)

/-- A string without the blanks at either end. -/
def trimmed (s : String) : String := String.ofList (trim s.toList)

end FilterLang.Text
