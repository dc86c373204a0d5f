import FilterLang.Decimal.Shortest

/-!
# Writing a double

A double is written with its shortest digits. Between `10 ^ -5` and `10 ^ 16` the notation is
positional and always has a point, so that a whole number is not taken for an integer; outside that
range it is a digit, a point if more digits follow, and a signed exponent.
-/

namespace FilterLang.Decimal

/-- How doubles are written. -/
structure Style where
  /-- The least power of ten of a first digit that is written positionally. -/
  leastPositional : Int
  /-- The greatest such power. -/
  greatestPositional : Int
  deriving Repr, DecidableEq

/-- The style of numbers in JSON texts and in messages about them. -/
def Style.json : Style := ⟨-5, 15⟩

/-- A positive decimal in positional notation. -/
def positional (d : Numeral) : String :=
  let digits := (toString d.digits).toList
  if 0 ≤ d.exponent then
    String.ofList (digits ++ List.replicate d.exponent.toNat '0') ++ ".0"
  else
    let places := (-d.exponent).toNat
    let whole := List.replicate (places + 1 - digits.length) '0' ++ digits
    String.ofList (whole.take (whole.length - places)) ++ "." ++
      String.ofList (whole.drop (whole.length - places))

/-- A decimal with an exponent. -/
def scientific (d : Numeral) : String :=
  let digits := (toString d.digits).toList
  let power := d.exponent + (digits.length : Int) - 1
  let mantissa :=
    match digits with
    | first :: rest =>
      String.singleton first ++ if rest.isEmpty then "" else "." ++ String.ofList rest
    | [] => "0"
  mantissa ++ "e" ++ (if power < 0 then "-" else "+") ++ toString power.natAbs

/-- A finite double as text. -/
def Binary.render (style : Style) (b : Binary) : String :=
  let d := b.shortest.normal
  let power := d.exponent + ((toString d.digits).length : Int) - 1
  (if b.negative then "-" else "") ++
    if style.leastPositional ≤ power && power ≤ style.greatestPositional then positional d
    else scientific d

end FilterLang.Decimal
