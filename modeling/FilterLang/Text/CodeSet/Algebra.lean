import FilterLang.Text.CodeSet

/-!
# The algebra of sets of code points

A set is in canonical form if its intervals ascend and no two of them overlap or touch. The
operations here take canonical sets and give canonical sets. Complements are taken among the
characters, so that they step over the surrogates, which are no characters: the character after
U+D7FF is U+E000.
-/

namespace FilterLang.CodeSet

/-- The greatest code point. -/
def maxCode : Nat := 0x10FFFF

/-! ### The canonical form -/

/-- Joins ascending intervals that overlap or touch, given one before them. -/
def joinFrom (lo hi : Nat) : CodeSet → CodeSet
  | [] => [(lo, hi)]
  | (a, b) :: rest =>
    if a ≤ hi + 1 then joinFrom lo (max hi b) rest else (lo, hi) :: joinFrom a b rest

/-- The canonical form of a list of intervals in any order. -/
def canonical (s : CodeSet) : CodeSet :=
  match s.mergeSort (fun r t ↦ r.1 ≤ t.1) with
  | [] => []
  | (a, b) :: rest => joinFrom a b rest

/-! ### Union, intersection and difference -/

/-- The code points of either set. -/
def union (s t : CodeSet) : CodeSet := canonical (s ++ t)

/-- The code points of both sets. -/
def inter : CodeSet → CodeSet → CodeSet
  | [], _ => []
  | _, [] => []
  | (a, b) :: s, (c, d) :: t =>
    let rest := if b < d then inter s ((c, d) :: t) else inter ((a, b) :: s) t
    if max a c ≤ min b d then (max a c, min b d) :: rest else rest
termination_by s t => s.length + t.length

/-- The character after the one with a code point. -/
def after (n : Nat) : Nat := if n = 0xD7FF then 0xE000 else n + 1

/-- The character before the one with a code point. -/
def before (n : Nat) : Nat := if n = 0xE000 then 0xD7FF else n - 1

/-- The ends of the gaps after a code point. Between two intervals that only the surrogates part,
the first end of the gap lies behind its last end. -/
def gapsFrom (n : Nat) : CodeSet → CodeSet
  | [] => if n < maxCode then [(after n, maxCode)] else []
  | (a, b) :: rest => (after n, before a) :: gapsFrom b rest

/-- The ends of the gaps of a set. -/
def gaps : CodeSet → CodeSet
  | [] => [(0, maxCode)]
  | (a, b) :: rest => (if 0 < a then [(0, before a)] else []) ++ gapsFrom b rest

/-- The characters outside a set. The ends of each gap are put in order, so that a gap without a
character between U+D7FF and U+E000 gives these two. -/
def complement (s : CodeSet) : CodeSet :=
  s.gaps.map fun r ↦ (min r.1 r.2, max r.1 r.2)

/-- The code points of the first set that are not in the second. -/
def diff (s t : CodeSet) : CodeSet := inter s (t.gaps.filter fun r ↦ r.1 ≤ r.2)

/-- The code points of exactly one of the sets. -/
def symmDiff (s t : CodeSet) : CodeSet := diff (union s t) (inter s t)

end FilterLang.CodeSet
