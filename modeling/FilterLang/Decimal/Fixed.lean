/-!
# Fixed places

A fraction between zero and infinity with a fixed number of decimal places. The last place is the
nearest, and of two that are equally near the even one.
-/

namespace FilterLang.Decimal

/-- The quotient of two numbers, rounded to the nearest and a half to the even neighbour. -/
def roundDiv (num den : Nat) : Nat :=
  let q := num / den
  let r := 2 * (num % den)
  if r < den || r == den && q % 2 == 0 then q else q + 1

/-- The text of a fraction with the given number of places, of which there must be at least one. -/
def fixed (places : Nat) (num den : Nat) : String :=
  let scaled := roundDiv (num * Nat.pow 10 places) den
  let digits := (toString (scaled % Nat.pow 10 places)).toList
  toString (scaled / Nat.pow 10 places) ++ "." ++
    String.ofList (List.replicate (places - digits.length) '0' ++ digits)

example : fixed 6 7 8 = "0.875000" := by decide +kernel

example : fixed 2 1 8 = "0.12" := by decide +kernel

end FilterLang.Decimal
