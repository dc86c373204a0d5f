import FilterLang.Diff.Shortest
import FilterLang.Terminal.Style
import FilterLang.Text.Lines

/-!
# Differences for people

The lines that are deleted and inserted between two texts, and the report on the canonical form of
an expression.
-/

namespace FilterLang.Display

open Terminal

/-- The characters of a line without its line feed. -/
def withoutFeed (line : List Char) : String :=
  String.ofList (line.reverse.dropWhile (· == '\n')).reverse

/-- One changed line. -/
def changeLine (color : Bool) : Diff.Change (List Char) → String
  | .deleted line => (Style.ofColour .red).paint color ("- " ++ withoutFeed line) ++ "\n"
  | .inserted line => (Style.ofColour .green).paint color ("+ " ++ withoutFeed line) ++ "\n"

/-- The changed lines between two texts. -/
def difference (color : Bool) (before after : String) : String :=
  let script := Diff.ofLists (Text.lines before.toList) (Text.lines after.toList)
  String.join (script.changes.map (changeLine color))

/-- The canonical text of an expression and how it differs from what was written. -/
def normalization (color : Bool) (input canonical : String) : String :=
  canonical ++ "\n" ++
    if input == canonical then Style.dimmed.paint color "(already canonical)" ++ "\n"
    else "\n" ++ difference color input canonical

end FilterLang.Display
