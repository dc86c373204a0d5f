import FilterLang.Decimal.Precision

/-!
# Edit distance

The Damerau–Levenshtein distance of two texts: the least number of insertions, deletions,
replacements and swaps of neighbours that turns one into the other, where a swapped pair may later
be edited in between. `similarity` scales it to the interval from 0 to 1 by the longer length, with
limited precision.

The distance of the prefixes ending at row `i` and column `j` is the least of four: a replacement
(free if the two letters agree), an insertion, a deletion, and a swap that reaches back to the last
row whose letter is the one of this column and the last column whose letter is the one of this row.
-/

namespace FilterLang.EditDistance

/-- The rows of the table so far, the newest last. -/
abbrev Rows := Array (Array Nat)

/-- The entry at a row and a column, zero outside the table. -/
def Rows.entry (rows : Rows) (i j : Nat) : Nat := (rows.getD i #[]).getD j 0

/-- The cost of a swap that reaches back from row `i`, column `j` to row `i'`, column `j'`, if both
exist; rows and columns are counted from one, and zero says that there is none. -/
def swapCost (rows : Rows) (i j i' j' : Nat) : Option Nat :=
  if i' == 0 || j' == 0 then none
  else some (rows.entry (i' - 1) (j' - 1) + (i - i' - 1) + 1 + (j - j' - 1))

/-- The row for the letter `x` at position `i`. `seen` gives the last row of each letter met
before. -/
def nextRow (rows : Rows) (seen : List (Char × Nat)) (i : Nat) (x : Char) (b : List Char) :
    Array Nat :=
  let step := fun (row, j, lastMatch) (y : Char) ↦
    let i' := (seen.lookup y).getD 0
    let replaced := rows.entry (i - 1) (j - 1) + (if x == y then 0 else 1)
    let edited := min replaced (min (row.getD (j - 1) 0 + 1) (rows.entry (i - 1) j + 1))
    let best := ((swapCost rows i j i' lastMatch).map (min edited)).getD edited
    (row.push best, j + 1, if x == y then j else lastMatch)
  (b.foldl step (#[i], 1, 0)).1

/-- The rows after the letters of `a`, the first of them at position `i`. -/
def fill (b : List Char) : Rows → List (Char × Nat) → Nat → List Char → Rows
  | rows, _, _, [] => rows
  | rows, seen, i, x :: a =>
    fill b (rows.push (nextRow rows seen i x b)) ((x, i) :: seen.eraseP (·.1 == x)) (i + 1) a

/-- The least number of edits between two texts. -/
def distance (a b : List Char) : Nat :=
  (fill b #[(List.range (b.length + 1)).toArray] [] 1 a).entry a.length b.length

/-- One minus the distance in parts of the longer length. Two empty texts are alike. -/
def similarity (a b : List Char) : Rat :=
  let longest := max a.length b.length
  if longest == 0 then 1 else Decimal.rest (Decimal.nearest (distance a b) longest)

end FilterLang.EditDistance
