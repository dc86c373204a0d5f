/-!
# Runs of letters with a common case shift

A case mapping sends most letters a fixed distance, either all letters of an interval or every
second one. A table of such runs is a few hundred lines shorter than a table of letters.
-/

namespace FilterLang.Text

/-- The code points `first, first + step, …, last`, sent to `target, target + step, …`. -/
structure CaseRun where
  first : Nat
  last : Nat
  step : Nat
  target : Nat
  deriving Repr, DecidableEq

namespace CaseRun

/-- The image of the code point `n`, if the run holds it. -/
def image? (r : CaseRun) (n : Nat) : Option Nat :=
  if r.first ≤ n && n ≤ r.last && (n - r.first) % r.step == 0 then
    some (r.target + (n - r.first))
  else
    none

/-- The image of `c` under the first run that holds it, or `c` itself. -/
def map (rs : List CaseRun) (c : Char) : Char :=
  match rs.findSome? (·.image? c.toNat) with
  | some n => Char.ofNat n
  | none => c

end CaseRun

end FilterLang.Text
