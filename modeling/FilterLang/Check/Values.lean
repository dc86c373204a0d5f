import FilterLang.Check.Report
import FilterLang.Check.Shape
import FilterLang.Pattern.Verdict

/-!
# The values of an expression

A value without its closing quote is wrong. A value that is empty, or that is compared as a regular
expression and is none, only deserves a warning: the expression has a meaning all the same.
-/

namespace FilterLang.Check

/-- Checks a token by itself. What is wrong with a value that is not closed is said of the value,
and the place to mark is its opening quote. -/
def checkValue (t : Token) : Report :=
  if t.lexeme.isUnclosed then
    ⟨false, [.unclosedValue t.start], [],
      [⟨t.start, t.start + 1, .error, .unmatchedQuote, none⟩]⟩
  else if t.lexeme.content? == some "" then .warningOn t .emptyValue
  else .empty

/-- The value of a condition that is compared as a regular expression, and what is wrong with it as
one, if anything is. An empty value is not looked at. -/
def patternFault? (s : Shape) : Option (Token × Pattern.Fault) := do
  let operator ← s.operator
  let op ← operator.lexeme.operator?
  let value ← s.value
  let content ← value.lexeme.content?
  if op.comparison == .pattern && content != "" then
    let f ← Pattern.fault? op.caseSensitive content
    return (value, f)
  else none

/-- Checks the regular expression of one condition, if it has one. -/
def checkPattern (s : Shape) : Report :=
  match patternFault? s with
  | none => .empty
  | some (value, f) => .warningOn value (.badPattern f.message)

/-- Checks the values of an expression. -/
def checkValues (ts : List Token) (shapes : List Shape) : Report :=
  .join (ts.map checkValue) ++ .join (shapes.map checkPattern)

end FilterLang.Check
