import FilterLang.Check.Misspelling
import FilterLang.Check.Report
import FilterLang.Check.Shape

/-!
# The operators of an expression

After its field a condition needs an operator and, after that, a value in quotes. Known misspellings
are left to the check of the structure, and a condition without a field to the check of the fields.
-/

namespace FilterLang.Check

/-- Checks that a condition has a value after its operator, in quotes. -/
def checkOperand (operator : Token) : Option Token → Report
  | none => .errorOn operator (.missingValue operator.text) none
  | some value =>
    if value.lexeme.isWord then
      .errorOn value (.unquotedValue value.text) (some ("\"" ++ value.text ++ "\""))
    else .empty

/-- Checks the operator of one condition. -/
def checkOperator (s : Shape) : Report :=
  if s.field.lexeme.operator?.isSome then .empty
  else
    match s.operator with
    | none => .errorOn s.field (.missingOperator s.field.text) none
    | some operator =>
      if operator.lexeme.operator?.isSome then checkOperand operator s.value
      else if (knownMisspelling? operator.text).isSome then .empty
      else
        let hint := Suggestion.suggest operator.text Operator.keywords
        .errorOn operator (.unknownOperator operator.text hint) hint

/-- Checks the operators of all conditions. -/
def checkOperators (shapes : List Shape) : Report := .join (shapes.map checkOperator)

end FilterLang.Check
