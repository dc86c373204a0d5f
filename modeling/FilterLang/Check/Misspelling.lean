import FilterLang.Text.Lowercase

/-!
# Known misspellings

Misspellings of the comparisons that are seen often enough to be corrected by name.
-/

namespace FilterLang.Check

/-- The misspellings of each comparison, in lower case. -/
def misspellings : List (String × List String) := [
  ("contains",
    ["contans", "contians", "conatins", "containz", "contain", "contais", "cotains"]),
  ("equals", ["equls", "eqals", "eqauls", "equal", "equels", "euqals"]),
  ("matches", ["matchs", "mathces", "macthes", "match"]),
  ("starts_with",
    ["startswith", "startwith", "start_with", "starts-with", "starts_width", "stats_with"]),
  ("ends_with", ["endswith", "endwith", "end_with", "ends-with", "ends_width"])]

/-- The correction of a word that is a known misspelling, in any case. -/
def knownMisspelling? (word : String) : Option String :=
  (misspellings.find? fun (_, wrong) ↦ wrong.contains (Text.lowercased word)).map Prod.fst

end FilterLang.Check
