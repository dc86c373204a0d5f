import FilterLang.Tree.Render

/-!
# The groups of a tree

How many children the groups of a tree have, and how many groups stand inside each other. `collapse`
takes away the groups of one child and keeps everything else: the conditions stay in their order,
the canonical text stays the same, and no group of one child is left.
-/

namespace FilterLang.Tree

/-! ### Definitions -/

/-- Whether the children of every group of a tree have a property. -/
inductive EveryGroup (p : List Tree → Prop) : Tree → Prop
  | condition (c : Condition) : EveryGroup p (.condition c)
  | group {k : Connective} {ts : List Tree} (hp : p ts) (h : ∀ t ∈ ts, EveryGroup p t) :
      EveryGroup p (.group k ts)

mutual

/-- The greatest number of groups inside each other on a path from the root to a condition. -/
def height : Tree → Nat
  | condition _ => 0
  | group _ children => heightAll children + 1

/-- The greatest height in a list of trees. -/
def heightAll : List Tree → Nat
  | [] => 0
  | t :: ts => max (height t) (heightAll ts)

end

variable {p : List Tree → Prop} {k : Connective} {t : Tree} {ts : List Tree}

/-- What holds of conditions, and of a group whenever it holds of its children, holds of every
tree. -/
theorem tree_induction {motive : Tree → Prop} (condition : ∀ c, motive (.condition c))
    (group : ∀ k ts, (∀ t ∈ ts, motive t) → motive (.group k ts)) : ∀ t, motive t
  | .condition c => condition c
  | .group k ts => group k ts fun t ht ↦
    have : sizeOf t < sizeOf ts := List.sizeOf_lt_of_mem ht
    tree_induction condition group t
termination_by t => sizeOf t
decreasing_by
  simp only [Tree.group.sizeOf_spec]
  omega

theorem everyGroup_group : EveryGroup p (.group k ts) ↔ p ts ∧ ∀ t ∈ ts, EveryGroup p t := by
  constructor
  · rintro ⟨⟩
    exact ⟨‹_›, ‹_›⟩
  · rintro ⟨hp, h⟩
    exact .group hp h

theorem height_le_heightAll (h : t ∈ ts) : t.height ≤ heightAll ts := by
  induction ts with
  | nil => simp at h
  | cons u us ih =>
    rw [heightAll]
    rcases List.mem_cons.1 h with rfl | h
    · exact Nat.le_max_left _ _
    · exact Nat.le_trans (ih h) (Nat.le_max_right _ _)

/-! ### Chains -/

@[simp] theorem ofChain_singleton (k : Connective) (t : Tree) : ofChain k [t] = t := rfl

theorem ofChain_of_two_le (k : Connective) (h : 2 ≤ ts.length) : ofChain k ts = .group k ts := by
  match ts, h with
  | _ :: _ :: _, _ => rfl

/-- A chain of two or more operands is a group, and a single operand stands for itself. -/
theorem ofChain_cases (k : Connective) (h : ts ≠ []) :
    (∃ t, ts = [t] ∧ ofChain k ts = t) ∨ 2 ≤ ts.length ∧ ofChain k ts = .group k ts := by
  match ts, h with
  | [t], _ => exact .inl ⟨t, rfl, rfl⟩
  | _ :: _ :: _, _ => exact .inr ⟨by simp, rfl⟩

theorem leaves_ofChain (k : Connective) (ts : List Tree) :
    (ofChain k ts).leaves = leavesAll ts := by
  unfold ofChain
  split
  · simp [leavesAll]
  · rfl

theorem leavesAll_ofChain_cons (k : Connective) (ts us : List Tree) :
    leavesAll (ofChain k ts :: us) = leavesAll ts ++ leavesAll us := by
  rw [leavesAll, leaves_ofChain]

theorem leavesAll_ofChain_singleton (k : Connective) (ts : List Tree) :
    leavesAll [ofChain k ts] = leavesAll ts := by
  rw [leavesAll_ofChain_cons, leavesAll, List.append_nil]

/-- The conditions of a child are conditions of the group. -/
theorem mem_leaves_group {c : Condition} (ht : t ∈ ts) (hc : c ∈ t.leaves) :
    c ∈ (group k ts).leaves := by
  rw [leaves, leavesAll_eq]
  exact List.mem_flatMap.2 ⟨t, ht, hc⟩

theorem everyGroup_ofChain (k : Connective) (hne : ts ≠ [])
    (h : ∀ t ∈ ts, EveryGroup (2 ≤ ·.length) t) : EveryGroup (2 ≤ ·.length) (ofChain k ts) := by
  rcases ofChain_cases k hne with ⟨t, rfl, -⟩ | ⟨h2, he⟩
  · exact h t List.mem_cons_self
  · rw [he]
    exact .group h2 h

/-! ### Collapsing -/

theorem collapse_group (k : Connective) (ts : List Tree) :
    (group k ts).collapse = ofChain k (ts.map collapse) := by
  rw [collapse, collapseAll_eq]

/-- Collapsing keeps the conditions and their order. -/
theorem leaves_collapse (t : Tree) : t.collapse.leaves = t.leaves := by
  induction t using tree_induction with
  | condition c => rfl
  | group k ts ih =>
    rw [collapse_group, leaves_ofChain, leaves, leavesAll_eq, leavesAll_eq, List.flatMap_map,
      List.flatMap_def, List.flatMap_def, List.map_congr_left ih]

/-- A tree and its collapsed form have the same canonical text. -/
theorem renderChars_collapse (t : Tree) : t.collapse.renderChars = t.renderChars := by
  induction t using tree_induction with
  | condition c => rfl
  | group k ts ih =>
    have hmap : (ts.map collapse).map renderChars = ts.map renderChars := by
      rw [List.map_map]
      exact List.map_congr_left ih
    rw [collapse_group, renderChars, renderAll_eq, ← hmap]
    -- The text of one operand is that operand's, with or without a group around it.
    by_cases hne : ts = []
    · simp [hne, ofChain, renderChars, renderAll]
    · have hne' : ts.map collapse ≠ [] := by simpa using hne
      rcases ofChain_cases k hne' with
        ⟨u, hu, he⟩ | ⟨-, he⟩
      · rw [he, hu]
        rfl
      · rw [he, renderChars, renderAll_eq]

/-- No group of a tree is empty exactly if, in the collapsed tree, every group has two children or
more. -/
theorem everyGroup_collapse (t : Tree) :
    EveryGroup (2 ≤ ·.length) t.collapse ↔ EveryGroup (· ≠ []) t := by
  induction t using tree_induction with
  | condition c => exact ⟨fun _ ↦ .condition c, fun _ ↦ .condition c⟩
  | group k ts ih =>
    rw [collapse_group, everyGroup_group]
    have hall : (∀ u ∈ ts.map collapse, EveryGroup (2 ≤ ·.length) u) ↔
        ∀ t ∈ ts, EveryGroup (· ≠ []) t := by
      simp only [List.forall_mem_map]
      exact forall₂_congr ih
    by_cases hne : ts = []
    · simp [hne, ofChain, everyGroup_group]
    · have hne' : ts.map collapse ≠ [] := by simpa using hne
      rcases ofChain_cases k hne' with
        ⟨u, hu, he⟩ | ⟨h2, he⟩
      · rw [he, ← hall, hu]
        simp [hne]
      · rw [List.length_map] at h2
        rw [he, everyGroup_group, hall]
        simp [hne, h2]

end FilterLang.Tree
