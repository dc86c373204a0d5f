import FilterLang.Keyword

/-!
# Condition trees

The meaning of a filter: conditions on single fields, joined by groups. A group may have any number
of children; the readers of stored trees refuse one without children, and the text form has no way
to write a group of one, so `collapse` tells which trees mean the same.
-/

namespace FilterLang

/-- A test of one field against one value. -/
structure Condition where
  field : String
  operator : Operator
  value : String
  deriving Repr, DecidableEq

/-- A condition tree. -/
inductive Tree where
  | condition (c : Condition)
  | group (connective : Connective) (children : List Tree)
  deriving Repr

namespace Tree

instance : Inhabited Tree := ⟨group .and []⟩

/-! ### Equality -/

mutual

/-- Decides whether two trees are equal. -/
def decEq : (s t : Tree) → Decidable (s = t)
  | condition c, condition d =>
    if h : c = d then isTrue (by rw [h]) else isFalse fun e ↦ h (Tree.condition.inj e)
  | condition _, group _ _ => isFalse (by simp)
  | group _ _, condition _ => isFalse (by simp)
  | group a ss, group b ts =>
    if h : a = b then
      match decEqAll ss ts with
      | isTrue h' => isTrue (by rw [h, h'])
      | isFalse h' => isFalse fun e ↦ h' (Tree.group.inj e).2
    else isFalse fun e ↦ h (Tree.group.inj e).1

/-- Decides whether two lists of trees are equal. -/
def decEqAll : (ss ts : List Tree) → Decidable (ss = ts)
  | [], [] => isTrue rfl
  | [], _ :: _ => isFalse (by simp)
  | _ :: _, [] => isFalse (by simp)
  | s :: ss, t :: ts =>
    match decEq s t with
    | isTrue h =>
      match decEqAll ss ts with
      | isTrue h' => isTrue (by rw [h, h'])
      | isFalse h' => isFalse fun e ↦ h' (List.cons.inj e).2
    | isFalse h => isFalse fun e ↦ h (List.cons.inj e).1

end

instance : DecidableEq Tree := decEq

/-! ### What a tree holds -/

mutual

/-- The conditions of a tree, from left to right. -/
def leaves : Tree → List Condition
  | condition c => [c]
  | group _ children => leavesAll children

/-- The conditions of a list of trees, from left to right. -/
def leavesAll : List Tree → List Condition
  | [] => []
  | t :: ts => leaves t ++ leavesAll ts

end

theorem leavesAll_eq (ts : List Tree) : leavesAll ts = ts.flatMap leaves := by
  induction ts with
  | nil => rfl
  | cons t ts ih => rw [leavesAll, ih, List.flatMap_cons]

/-- The number of conditions. -/
def conditionCount (t : Tree) : Nat := t.leaves.length

/-- The fields named in a tree, each once, in the order of their first use. -/
def fields (t : Tree) : List String := (t.leaves.map Condition.field).eraseDups

/-! ### Building trees -/

/-- A condition that is neither negated nor case-sensitive. -/
def plain (field : String) (comparison : Comparison) (value : String) : Tree :=
  condition ⟨field, ⟨comparison, false, false⟩, value⟩

/-- A condition with one more modifier; a group is left as it is. -/
def modify (m : Modifier) : Tree → Tree
  | condition c => condition { c with operator := c.operator.modify m }
  | group connective children => group connective children

/-- The tree of a nonempty chain of operands: a single operand stands for itself. -/
def ofChain (connective : Connective) : List Tree → Tree
  | [t] => t
  | ts => group connective ts

/-! ### Groups of one -/

mutual

/-- The tree with every group of one child replaced by that child. -/
def collapse : Tree → Tree
  | condition c => condition c
  | group connective children => ofChain connective (collapseAll children)

/-- The trees of a list, each collapsed. -/
def collapseAll : List Tree → List Tree
  | [] => []
  | t :: ts => collapse t :: collapseAll ts

end

theorem collapseAll_eq (ts : List Tree) : collapseAll ts = ts.map collapse := by
  induction ts with
  | nil => rfl
  | cons t ts ih => rw [collapseAll, ih, List.map_cons]

end Tree

end FilterLang
