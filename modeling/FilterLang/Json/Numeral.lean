import FilterLang.Json.Reader

/-!
# Numerals

A numeral is a sign, whole digits, and perhaps a fraction and an exponent. One without fraction and
exponent is an integer if it fits; every other becomes a double.

The double of a strict numeral is computed from a significand of at most 64 bits: digits that no
longer fit are dropped, those before the point counting as powers of ten. The significand is then
scaled by one power of ten, or by several where the exponent is below those that a double can
express. A numeral beyond the greatest double has no value.
-/

namespace FilterLang.Json

/-- The parts of a numeral. The exponent is the number written, without the digits of the
fraction. -/
structure Numeral where
  negative : Bool
  whole : List Char
  fraction : Option (List Char)
  exponent : Option Int
  deriving Repr, DecidableEq

namespace Numeral

/-- The greatest significand. -/
def maxSignificand : Nat := Nat.pow 2 64 - 1

/-- The number that a list of decimal digits denotes. -/
def ofDigits (cs : List Char) : Nat := cs.foldl (fun n c ↦ 10 * n + (c.toNat - 48)) 0

/-- Takes digits into a significand while they fit, and returns those that are left. -/
def take (significand : Nat) : List Char → Nat × List Char
  | [] => (significand, [])
  | c :: cs =>
    let next := 10 * significand + (c.toNat - 48)
    if next ≤ maxSignificand then take next cs else (significand, c :: cs)

/-- The power of ten, for exponents up to 308. -/
def powerOfTen (n : Nat) : Float := Float.ofScientific 1 false n

/-- Scales a double by a power of ten. Fuel bounds the number of steps of 308 that are taken while
the exponent is below those of a double, after three of which nothing is left of any significand. -/
def scale : Nat → Float → Int → Option Float
  | 0, f, _ => some f
  | fuel + 1, f, e =>
    if e.natAbs ≤ 308 then
      if 0 ≤ e then
        let g := f * powerOfTen e.natAbs
        if g.isInf then none else some g
      else some (f / powerOfTen e.natAbs)
    else if f == 0 then some f
    else if 0 ≤ e then none
    else scale fuel (f / powerOfTen 308) (e + 308)

/-- The double of a significand and an exponent, with the sign. -/
def toDouble (negative : Bool) (significand : Nat) (e : Int) : Option Json :=
  (scale 4 significand.toUInt64.toFloat e).map fun f ↦
    .float (if negative then -f else f).toBits

/-- The value of a strict numeral, unless it is out of range. -/
def value? (n : Numeral) : Option Json :=
  let (significand, dropped) := take 0 n.whole
  match n.fraction, n.exponent, dropped with
  | none, none, [] =>
    if !n.negative then some (.int significand)
    else if significand == 0 || Nat.pow 2 63 < significand then
      some (.float (-significand.toUInt64.toFloat).toBits)
    else some (.int (-(significand : Int)))
  | fraction, exponent, dropped =>
    let digits := fraction.getD []
    let (significand, unread) := take significand digits
    let shift : Int := (dropped.length : Int) - ((digits.length - unread.length : Nat) : Int)
    match exponent with
    | none => toDouble n.negative significand shift
    | some e =>
      if Nat.pow 2 31 ≤ e.natAbs then
        if significand != 0 && 0 < e then none else toDouble n.negative 0 0
      else toDouble n.negative significand (shift + e)

end Numeral

/-- Reads a nonempty run of decimal digits. -/
def digits (cs : List Char) : Read (List Char) cs :=
  match cs with
  | [] => .error .unfinished
  | c :: rest =>
    if c.isDigit then
      .ok (c :: rest.takeWhile Char.isDigit, ⟨rest.dropWhile Char.isDigit, by
        have := (List.dropWhile_suffix (l := rest) Char.isDigit).length_le
        simp only [List.length_cons]
        omega⟩)
    else .error .malformed

/-- Reads a fraction, if one follows. -/
def fraction? (cs : List Char) : Except ReadFault (Option (List Char) × Rest cs) :=
  match cs with
  | '.' :: rest => do
    let (ds, ⟨after, h⟩) ← digits rest
    return (some ds, ⟨after, by simp only [List.length_cons]; omega⟩)
  | cs => .ok (none, ⟨cs, Nat.le_refl _⟩)

/-- Reads an exponent, if one follows. -/
def exponent? (cs : List Char) : Except ReadFault (Option Int × Rest cs) :=
  match cs with
  | [] => .ok (none, ⟨[], Nat.le_refl _⟩)
  | e :: rest =>
    if e == 'e' || e == 'E' then do
      let (negative, ⟨rest, h⟩) : Bool × Rest rest :=
        match rest with
        | '+' :: after => (false, ⟨after, Nat.le_succ _⟩)
        | '-' :: after => (true, ⟨after, Nat.le_succ _⟩)
        | rest => (false, ⟨rest, Nat.le_refl _⟩)
      let (ds, ⟨after, h'⟩) ← digits rest
      let n : Int := Numeral.ofDigits ds
      return (some (if negative then -n else n), ⟨after, by simp only [List.length_cons]; omega⟩)
    else .ok (none, ⟨e :: rest, Nat.le_refl _⟩)

/-- Reads a strict numeral without its sign. More than one whole digit must not start with zero. -/
def unsignedNumeral (negative : Bool) : Reader Json := fun cs ↦ do
  let (whole, ⟨after, h⟩) ← digits cs
  if 1 < whole.length && whole.head? == some '0' then .error .malformed
  let (fraction, ⟨after', h'⟩) ← fraction? after
  let (exponent, ⟨rest, h''⟩) ← exponent? after'
  match (⟨negative, whole, fraction, exponent⟩ : Numeral).value? with
  | some v => return (v, ⟨rest, by omega⟩)
  | none => .error .malformed

end FilterLang.Json
