import FilterLang.Diff

/-!
# The middle of a shortest script

Two searches run over the grid whose columns are the items of the first list and whose rows are
those of the second, one from each corner. In round `d` each knows, for every diagonal, the furthest
point that `d` edits reach. They meet on a run of common items in the middle of a shortest script,
and there the task is split in two.

A diagonal is named by the column less the row. What is known is kept by diagonal, in an array that
is read around its centre.
-/

namespace FilterLang.Diff

/-- The furthest columns reached, by diagonal. -/
structure Frontier where
  centre : Nat
  reach : Array Nat
  deriving Repr

namespace Frontier

/-- The frontier before the first round, of which no diagonal is further than `size` from the
centre. -/
def start (size : Nat) : Frontier := ⟨size, Array.replicate (2 * size + 1) 0⟩

/-- The furthest column on a diagonal. -/
def get (f : Frontier) (k : Int) : Nat := f.reach.getD (k + f.centre).toNat 0

/-- The frontier with another column on a diagonal. -/
def set (f : Frontier) (k : Int) (x : Nat) : Frontier :=
  { f with reach := f.reach.setIfInBounds (k + f.centre).toNat x }

/-- The column at which round `d` starts on a diagonal: one edit after the further of the two
neighbours, of which the lower counts on a tie. -/
def entry (f : Frontier) (d k : Int) : Nat :=
  if k == -d || k != d && f.get (k - 1) < f.get (k + 1) then f.get (k + 1) else f.get (k - 1) + 1

end Frontier

/-- The diagonals of round `d`, from the highest to the lowest. -/
def diagonals (d : Nat) : List Int :=
  (List.range (d + 1)).map fun (i : Nat) ↦ (d : Int) - 2 * (i : Int)

/-- The lists of a search. -/
structure Grid (α : Type) where
  columns : Array α
  rows : Array α

namespace Grid

variable {α : Type} [BEq α]

/-- The difference between the number of columns and that of rows. -/
def delta (g : Grid α) : Int := (g.columns.size : Int) - g.rows.size

/-- Whether a shortest script has an odd number of edits. -/
def isOdd (g : Grid α) : Bool := g.delta % 2 == 1

/-- The number of common items from a point onwards, at most `fuel`. -/
def runForward (g : Grid α) : Nat → Nat → Nat → Nat
  | 0, _, _ => 0
  | fuel + 1, x, y =>
    match g.columns[x]?, g.rows[y]? with
    | some a, some b => if a == b then runForward g fuel (x + 1) (y + 1) + 1 else 0
    | _, _ => 0

/-- The same grid seen from its other corner. -/
def reversed (g : Grid α) : Grid α := ⟨g.columns.reverse, g.rows.reverse⟩

/-- The number of common items from a point onwards. -/
def run (g : Grid α) (x : Nat) (y : Int) : Nat :=
  if y < 0 then 0 else g.runForward g.columns.size x y.toNat

/-- One half of a round, over the given diagonals: moves every diagonal of `mine` forwards. If one
meets `theirs`, the second part is the point at which its run starts, and how far the run goes. -/
def advance (g : Grid α) (meets : Int → Bool) (d : Nat) (theirs : Frontier) :
    List Int → Frontier → Frontier × Option (Nat × Int × Nat)
  | [], mine => (mine, none)
  | k :: ks, mine =>
    let x := mine.entry d k
    let y := (x : Int) - k
    let n := g.run x y
    let mine := mine.set k (x + n)
    if meets k && g.columns.size ≤ x + n + theirs.get (g.delta - k) then (mine, some (x, y, n))
    else advance g meets d theirs ks mine

/-- The rounds from round `d` on, at most `fuel` of them. `back` is the grid seen from the other
corner. -/
def rounds (g back : Grid α) : Nat → Nat → Frontier → Frontier → Option (Nat × Nat)
  | 0, _, _, _ => none
  | fuel + 1, d, forward, backward =>
    let near (limit k : Int) : Bool := (k - g.delta).natAbs ≤ limit
    match g.advance (fun k ↦ g.isOdd && near (d - 1) k) d backward (diagonals d) forward with
    | (_, some (x, y, _)) => some (x, y.toNat)
    | (forward, none) =>
      match back.advance (fun k ↦ !g.isOdd && near d k) d forward (diagonals d) backward with
      | (_, some (x, y, n)) =>
        some (g.columns.size - (x + n), ((g.rows.size : Int) - (y + n)).toNat)
      | (backward, none) => rounds g back fuel (d + 1) forward backward

/-- The point at which a shortest script is split. -/
def middle (g : Grid α) : Option (Nat × Nat) :=
  let limit := (g.columns.size + g.rows.size + 1) / 2 + 1
  g.rounds g.reversed limit 0 (.start (limit + 1)) (.start (limit + 1))

end Grid

end FilterLang.Diff
