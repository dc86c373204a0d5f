import FilterLang.Check.Report
import FilterLang.Check.Shape

/-!
# The fields of an expression

Every condition must name a field of the catalog.
-/

namespace FilterLang.Check

/-- Checks the field of one condition. An operator in its place means that the field is missing. -/
def checkField (catalog : Catalog) (s : Shape) : Report :=
  match s.field.lexeme with
  | .word _ .field => .empty
  | .word w (.operator _) => .errorOn s.field (.missingField w) none
  | l =>
    let hint := Suggestion.suggest l.text catalog.names
    .errorOn s.field (.unknownField l.text hint) hint

/-- Checks the fields of all conditions. -/
def checkFields (shapes : List Shape) (catalog : Catalog) : Report :=
  .join (shapes.map (checkField catalog))

end FilterLang.Check
