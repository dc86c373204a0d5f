import FilterLang.Json
import FilterLang.Token

/-!
# Documents of tokens
-/

namespace FilterLang.Token

/-- The document of a token. -/
def toJson (catalog : Catalog) (t : Token) : Json :=
  .obj ([("kind", .str t.lexeme.kind.name), ("text", .str t.text), ("start", .int t.start),
    ("end", .int t.stop), ("valid", .bool t.lexeme.isValid)] ++
    (t.suggestion? catalog).toList.map fun s ↦ ("suggestion", .str s))

/-- The document of some tokens. -/
def listToJson (catalog : Catalog) (ts : List Token) : Json := .arr (ts.map (toJson catalog))

end FilterLang.Token
