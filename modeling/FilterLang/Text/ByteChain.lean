import FilterLang.Text.CodeSet

/-!
# Characters as chains of bytes

The characters of an interval of code points, read byte by byte in UTF-8, are not an interval again:
each byte but the last decides where the next one may lie. They are the union of a few chains, in
each of which every byte has an interval of its own, and any choice of bytes makes a character.

A character of several bytes is a number to base 64 with a mark at each digit, so the chains of an
interval are those of a leading digit cut off at both ends and the full ones between them.
-/

namespace FilterLang.Text

/-- The intervals of the bytes of a character. -/
abbrev ByteChain := List (Nat × Nat)

namespace ByteChain

/-- The mark of a byte that is not the first. -/
def continuation : Nat := 0x80

/-- The chains for the numbers from `a` to `b` with one leading digit, which has the given mark, and
`digits` more. -/
def ofNumbers (mark : Nat) : Nat → Nat → Nat → List ByteChain
  | 0, a, b => [[(mark + a, mark + b)]]
  | digits + 1, a, b =>
    let unit := Nat.pow 64 (digits + 1)
    let first := a / unit
    let last := b / unit
    let led (lead : Nat) (chains : List ByteChain) : List ByteChain :=
      chains.map ((mark + lead, mark + lead) :: ·)
    if first == last then
      led first (ofNumbers continuation digits (a % unit) (b % unit))
    else
      let lowCut := a % unit != 0
      let highCut := b % unit != unit - 1
      let lo := if lowCut then first + 1 else first
      let hi := if highCut then last - 1 else last
      (if lowCut then led first (ofNumbers continuation digits (a % unit) (unit - 1)) else []) ++
        (if lo ≤ hi then
          [(mark + lo, mark + hi) :: List.replicate (digits + 1) (continuation, continuation + 63)]
        else []) ++
        (if highCut then led last (ofNumbers continuation digits 0 (b % unit)) else [])

/-- The code points of each form: the first and the last of them, the mark of the first byte, and
the number of bytes after it. The surrogates are left out. -/
def forms : List (Nat × Nat × Nat × Nat) :=
  [(0x0, 0x7F, 0x0, 0), (0x80, 0x7FF, 0xC0, 1), (0x800, 0xD7FF, 0xE0, 2),
    (0xE000, 0xFFFF, 0xE0, 2), (0x10000, 0x10FFFF, 0xF0, 3)]

/-- The chains for the characters of an interval, in ascending order. -/
def ofInterval (a b : Nat) : List ByteChain :=
  forms.flatMap fun (lo, hi, mark, digits) ↦
    if max a lo ≤ min b hi then ofNumbers mark digits (max a lo) (min b hi) else []

/-- The chains for the characters of a set. -/
def ofSet (s : CodeSet) : List ByteChain := s.flatMap fun r ↦ ofInterval r.1 r.2

/-- All characters. -/
example : ofInterval 0 0x10FFFF = [
    [(0x00, 0x7F)],
    [(0xC2, 0xDF), (0x80, 0xBF)],
    [(0xE0, 0xE0), (0xA0, 0xBF), (0x80, 0xBF)],
    [(0xE1, 0xEC), (0x80, 0xBF), (0x80, 0xBF)],
    [(0xED, 0xED), (0x80, 0x9F), (0x80, 0xBF)],
    [(0xEE, 0xEF), (0x80, 0xBF), (0x80, 0xBF)],
    [(0xF0, 0xF0), (0x90, 0xBF), (0x80, 0xBF), (0x80, 0xBF)],
    [(0xF1, 0xF3), (0x80, 0xBF), (0x80, 0xBF), (0x80, 0xBF)],
    [(0xF4, 0xF4), (0x80, 0x8F), (0x80, 0xBF), (0x80, 0xBF)]] := by
  decide +kernel

end ByteChain

end FilterLang.Text
