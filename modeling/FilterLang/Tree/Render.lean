import FilterLang.Tree

/-!
# The canonical text of a tree

Every group of two or more children is put in parentheses, so the text never depends on which
connective binds tighter. A group of one is written as its child. A value stands in double quotes
unless it holds one and no single quote; the language has no escapes, so a value with quotes of both
kinds has no faithful text.
-/

namespace FilterLang

/-- The quote to put around a value. -/
def quoteFor (value : List Char) : Char :=
  if value.contains '"' && !value.contains '\'' then '\'' else '"'

/-- A value in its quotes. -/
def renderValue (value : List Char) : List Char := quoteFor value :: (value ++ [quoteFor value])

namespace Condition

/-- The text of a condition: its field, its modifiers as words, its comparison and its value. -/
def render (c : Condition) : List Char :=
  c.field.toList ++ ' ' ::
    ((if c.operator.negate then Modifier.not.keyword.toList ++ [' '] else []) ++
    (if c.operator.caseSensitive then Modifier.caseSensitive.keyword.toList ++ [' '] else []) ++
    c.operator.comparison.keyword.toList ++ ' ' :: renderValue c.value.toList)

end Condition

namespace Tree

/-- Rendered operands joined by a connective; two or more stand in parentheses. -/
def joinOperands (connective : Connective) : List (List Char) → List Char
  | [] => []
  | [only] => only
  | parts => '(' :: (List.intercalate (' ' :: (connective.keyword.toList ++ [' '])) parts ++ [')'])

mutual

/-- The characters of the canonical text. -/
def renderChars : Tree → List Char
  | condition c => c.render
  | group connective children => joinOperands connective (renderAll children)

/-- The canonical texts of a list of trees. -/
def renderAll : List Tree → List (List Char)
  | [] => []
  | t :: ts => renderChars t :: renderAll ts

end

theorem renderAll_eq (ts : List Tree) : renderAll ts = ts.map renderChars := by
  induction ts with
  | nil => rfl
  | cons t ts ih => rw [renderAll, ih, List.map_cons]

/-- The canonical text of a tree. -/
def render (t : Tree) : String := String.ofList t.renderChars

end Tree

end FilterLang
