/-!
# Edit scripts

How one list becomes another: a script of edits, each of which keeps, deletes or inserts a run of
items. The first list is what a script keeps and deletes, the second what it keeps and inserts, and
that is all a script says. `Diff.ofLists` finds a short one.
-/

namespace FilterLang.Diff

/-- One edit. -/
inductive Edit (α : Type) where
  | keep (items : List α)
  | delete (items : List α)
  | insert (items : List α)
  deriving Repr, DecidableEq

namespace Edit

variable {α : Type}

/-- The number of items of an edit, and one more. -/
def weight : Edit α → Nat
  | keep items => items.length + 1
  | delete items => items.length + 1
  | insert items => items.length + 1

end Edit

/-- A list of edits in order. -/
abbrev Script (α : Type) := List (Edit α)

namespace Script

variable {α : Type}

/-- The number of items of all edits, and one more for each edit. -/
def weight (s : Script α) : Nat := s.foldr (fun e n ↦ e.weight + n) 0

@[simp] theorem weight_nil : weight ([] : Script α) = 0 := rfl

@[simp] theorem weight_cons (e : Edit α) (s : Script α) :
    weight (e :: s) = e.weight + weight s := rfl

end Script

/-! ### Common ends -/

/-- The length of the longest common beginning of two lists. -/
def commonPrefix {α : Type} [BEq α] : List α → List α → Nat
  | a :: as, b :: bs => if a == b then commonPrefix as bs + 1 else 0
  | _, _ => 0

/-- The length of the longest common end of two lists. -/
def commonSuffix {α : Type} [BEq α] (as bs : List α) : Nat :=
  commonPrefix as.reverse bs.reverse

theorem commonPrefix_le_left {α : Type} [BEq α] (as bs : List α) :
    commonPrefix as bs ≤ as.length := by
  fun_induction commonPrefix as bs <;> simp_all

theorem commonSuffix_le_left {α : Type} [BEq α] (as bs : List α) :
    commonSuffix as bs ≤ as.length := by
  have := commonPrefix_le_left as.reverse bs.reverse
  rwa [List.length_reverse] at this

end FilterLang.Diff
