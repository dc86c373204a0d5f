/-!
# The shortest decimal of a double

A double is a sign and `mantissa * 2 ^ exponent`, and the decimals that read back as it are those in
an interval around it that reaches half-way to its neighbours; the ends belong to the interval when
the mantissa is even. `shortest` walks the decimal grids `10 ^ g` from coarse to fine and takes the
first grid with a point in the interval, and of the two points next to the double the nearer one.
All of this is exact arithmetic on natural numbers.
-/

namespace FilterLang.Decimal

/-- A finite double, taken apart. -/
structure Binary where
  negative : Bool
  mantissa : Nat
  exponent : Int
  deriving Repr, DecidableEq

namespace Binary

/-- The parts of the double with the given bits. The infinities and NaN have none. -/
def ofBits? (bits : UInt64) : Option Binary :=
  let n := bits.toNat
  let negative := n / Nat.pow 2 63 == 1
  let biased : Nat := n / Nat.pow 2 52 % Nat.pow 2 11
  let fraction : Nat := n % Nat.pow 2 52
  if biased == 2047 then none
  else if biased == 0 then some ⟨negative, fraction, -1074⟩
  else some ⟨negative, Nat.pow 2 52 + fraction, Int.ofNat biased - 1075⟩

/-- Four times the mantissa and the ends of the interval of decimals that read back, in quarters of
the last place. Below a power of two the neighbour is only half as far away. -/
def quarters (b : Binary) : Nat × Nat × Nat :=
  let m := 4 * b.mantissa
  let below := if b.mantissa == Nat.pow 2 52 && b.exponent != -1074 then 1 else 2
  (m - below, m, m + 2)

/-- The multiple of `10 ^ g` to write for the double, if one reads back. -/
def onGrid? (b : Binary) (g : Int) : Option Nat :=
  let shift := b.exponent - 2
  let scale := Nat.pow 2 shift.toNat * Nat.pow 10 (-g).toNat
  let unit := Nat.pow 2 (-shift).toNat * Nat.pow 10 g.toNat
  let (lo, v, hi) := b.quarters
  let inside (k : Nat) : Bool :=
    if b.mantissa % 2 == 0 then lo * scale ≤ k * unit && k * unit ≤ hi * scale
    else lo * scale < k * unit && k * unit < hi * scale
  let k := v * scale / unit
  let down := inside k
  let up := inside (k + 1)
  if down && up then
    some (if v * scale - k * unit ≤ (k + 1) * unit - v * scale then k else k + 1)
  else if down then some k
  else if up then some (k + 1)
  else none

end Binary

/-- A decimal `digits * 10 ^ exponent`. -/
structure Numeral where
  digits : Nat
  exponent : Int
  deriving Repr, DecidableEq

/-- The coarsest grid that a double can need. -/
def coarsestGrid : Int := 309

/-- The number of grids from the coarsest to one that holds every double. -/
def gridCount : Nat := 1400

/-- The shortest decimal that reads back as the double. -/
def Binary.shortest (b : Binary) : Numeral :=
  if b.mantissa == 0 then ⟨0, 0⟩
  else
    ((List.range gridCount).findSome? fun i ↦
      let g := coarsestGrid - Int.ofNat i
      (b.onGrid? g).map fun k ↦ ⟨k, g⟩).getD ⟨0, 0⟩

namespace Numeral

/-- The decimal without the zeros at its end. Fuel bounds the number of zeros taken away. -/
def trim : Nat → Numeral → Numeral
  | 0, d => d
  | fuel + 1, d =>
    if d.digits != 0 && d.digits % 10 == 0 then trim fuel ⟨d.digits / 10, d.exponent + 1⟩ else d

/-- The decimal with a last digit that is not zero. -/
def normal (d : Numeral) : Numeral := trim (toString d.digits).length d

end Numeral

end FilterLang.Decimal
