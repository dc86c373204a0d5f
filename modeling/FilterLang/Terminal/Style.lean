/-!
# Coloured text

Text for a terminal, with the sequences that switch colours on and off. A style is painted only if
colours are wanted, so a report is written once for both cases. Where a painted text switches styles
off itself, the style around it is switched on again.
-/

namespace FilterLang.Terminal

/-- The colours of the foreground. -/
inductive Colour where
  | red
  | green
  | yellow
  | blue
  | magenta
  | cyan
  deriving Repr, DecidableEq

/-- How strongly a text is shown. -/
inductive Weight where
  | bold
  | dimmed
  deriving Repr, DecidableEq

/-- A colour and a weight, either of which may be left as it is. -/
structure Style where
  weight : Option Weight
  colour : Option Colour
  deriving Repr, DecidableEq

namespace Style

/-- The style that changes nothing. -/
def plain : Style := ⟨none, none⟩

/-- A colour by itself. -/
def ofColour (c : Colour) : Style := ⟨none, some c⟩

/-- A colour in bold. -/
def bold (c : Colour) : Style := ⟨some .bold, some c⟩

/-- Dimmed text. -/
def dimmed : Style := ⟨some .dimmed, none⟩

/-- The codes of a style, the weight first. -/
def codes (s : Style) : List String :=
  (s.weight.toList.map fun
    | .bold => "1"
    | .dimmed => "2") ++
  s.colour.toList.map fun
    | .red => "31"
    | .green => "32"
    | .yellow => "33"
    | .blue => "34"
    | .magenta => "35"
    | .cyan => "36"

/-- The sequence that switches a style on. -/
def opening (s : Style) : List Char := '\x1b' :: '[' :: ((";".intercalate s.codes).toList ++ ['m'])

/-- The sequence that switches every style off. -/
def closing : List Char := ['\x1b', '[', '0', 'm']

/-- A text in which a style is switched on again wherever styles are switched off. -/
def reopen (s : Style) : List Char → List Char
  | '\x1b' :: '[' :: '0' :: 'm' :: rest => closing ++ s.opening ++ reopen s rest
  | c :: rest => c :: reopen s rest
  | [] => []

/-- A text in a style, if colours are wanted. -/
def paint (s : Style) (color : Bool) (text : String) : String :=
  if color && s != plain then String.ofList (s.opening ++ s.reopen text.toList ++ closing)
  else text

end Style

end FilterLang.Terminal
