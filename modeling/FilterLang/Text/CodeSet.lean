/-!
# Sets of code points

Character properties are published as lists of closed code point intervals, and the tables of this
library keep that form. A table is data: the functions that read it live with the property they
decide.
-/

namespace FilterLang

/-- A set of code points, written as the closed intervals that make it up. -/
abbrev CodeSet := List (Nat × Nat)

namespace CodeSet

/-- Whether some interval of the set holds the code point of `c`. -/
def contains (s : CodeSet) (c : Char) : Bool :=
  s.any fun r ↦ r.1 ≤ c.toNat && c.toNat ≤ r.2

/-- Membership read as a statement: an interval of the set has `c` between its ends. -/
theorem contains_iff {s : CodeSet} {c : Char} :
    s.contains c = true ↔ ∃ r ∈ s, r.1 ≤ c.toNat ∧ c.toNat ≤ r.2 := by
  simp [contains, List.any_eq_true]

end CodeSet

end FilterLang
