import FilterLang.Decimal.Fixed

/-!
# Limited precision

A score is kept with 53 binary digits, and each step of its computation is rounded to that many. The
nearest number with so many digits is taken, and of two that are equally near the one whose last
digit is zero.
-/

namespace FilterLang.Decimal

/-- The number of binary digits that a score is kept with. -/
def precision : Nat := 53

/-- How many places after the binary point a fraction between zero and one has, when its first digit
that is not zero is the first of `precision` many. -/
def binaryPlaces (num den : Nat) : Nat :=
  let places := precision + den.log2 - num.log2
  if Nat.pow 2 precision ≤ num * Nat.pow 2 places / den then places - 1 else places

/-- The nearest number of limited precision to a fraction between zero and one. -/
def nearest (num den : Nat) : Rat :=
  if num == 0 then 0
  else
    let places := binaryPlaces num den
    mkRat (roundDiv (num * Nat.pow 2 places) den) (Nat.pow 2 places)

/-- One minus a number between zero and one, again of limited precision. -/
def rest (x : Rat) : Rat :=
  let y := 1 - x
  nearest y.num.toNat y.den

/-- A half is kept as it is. -/
example : nearest 1 2 = mkRat 1 2 := by decide +kernel

/-- A fifth is not. -/
example : nearest 1 5 = mkRat 3602879701896397 (2 ^ 54) := by decide +kernel

end FilterLang.Decimal
