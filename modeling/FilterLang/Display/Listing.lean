import FilterLang.Terminal.Style
import FilterLang.Terminal.Table
import FilterLang.Token

/-!
# Listings

Tables of the tokens of an expression and of the fields of a catalog.
-/

namespace FilterLang.Display

open Terminal

/-- Yes or no. -/
def yesNo (b : Bool) : String := if b then "yes" else "no"

/-- The style in which a class of tokens is listed. -/
def kindStyle : Lexeme.Kind → Style
  | .field => .ofColour .cyan
  | .operator => .ofColour .yellow
  | .value => .ofColour .green
  | .logic => .ofColour .magenta
  | .modifier => .ofColour .blue
  | .parenthesis => .plain
  | .whitespace => .plain
  | .error => .bold .red

/-- The row of a token. -/
def tokenRow (color : Bool) (catalog : Catalog) (t : Token) : List String :=
  [(kindStyle t.lexeme.kind).paint color t.lexeme.kind.name,
    toString t.start ++ ".." ++ toString t.stop, t.text, yesNo t.lexeme.isValid,
    (t.suggestion? catalog).getD ""]

/-- The table of the tokens that are not white space. -/
def tokens (color : Bool) (catalog : Catalog) (ts : List Token) : String :=
  tableText ["Kind", "Span", "Text", "Valid", "Suggestion"]
    ((Token.significant ts).map (tokenRow color catalog))

/-- The table of the fields of a catalog. -/
def fields (catalog : Catalog) : String :=
  tableText ["Name", "Display name", "Type", "Nullable"]
    (catalog.fields.map fun f ↦ [f.name, f.displayName, f.type, yesNo f.nullable])

end FilterLang.Display
