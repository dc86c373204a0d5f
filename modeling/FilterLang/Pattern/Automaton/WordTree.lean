import FilterLang.Pattern.Automaton.Draft

/-!
# Trees of words

Alternatives that are all texts are read as a tree, in which words that begin alike share their
beginning. Of two words that match, the one that was written first is preferred. So where a word
ends within another one, the branches of the words after it are kept apart from those of the words
before it.
-/

namespace FilterLang.Pattern

/-- A tree of words, read byte by byte. Every word that ends at a node closes the branches that the
node has so far. -/
inductive WordTree where
  | node (closed : List (List (Nat × WordTree))) (branches : List (Nat × WordTree))
  deriving Repr

namespace WordTree

/-- The tree of no words. -/
def empty : WordTree := .node [] []

/-- The tree of one word. -/
def single : List Nat → WordTree
  | [] => .node [[]] []
  | b :: word => .node [] [(b, single word)]

/-- The tree with one more word. A word that ends at a node without branches where one has ended
already changes nothing. -/
def insert : List Nat → WordTree → WordTree
  | [], .node closed branches =>
    if branches.isEmpty && !closed.isEmpty && (closed.all fun group ↦ group.isEmpty) then
      .node closed branches
    else .node (closed ++ [branches]) []
  | b :: word, .node closed branches =>
    if branches.any (·.1 == b) then
      .node closed (branches.map fun (c, t) ↦ if c == b then (c, insert word t) else (c, t))
    else .node closed (branches ++ [(b, single word)])

/-- The tree of some words. -/
def ofWords (words : List (List Nat)) : WordTree := words.foldl (fun t word ↦ t.insert word) empty

/-- Whether a node has no branches. It needs no state of its own. -/
def isLeaf : WordTree → Bool
  | .node closed branches => branches.isEmpty && closed.all fun group ↦ group.isEmpty

/-! ### States -/

/-- The number of states of a group of branches, without those behind it. -/
def groupStates (group : List (Nat × WordTree)) : Nat := if group.isEmpty then 0 else 1

/-- The bytes of a group of branches beyond its state. A single branch takes none. -/
def groupExtra (group : List (Nat × WordTree)) : Nat :=
  if group.length ≤ 1 then 0 else edgeSize * group.length

mutual

/-- The number of states of a tree: one for each group of branches and a fork in front of them. -/
def states : WordTree → Nat
  | .node closed branches =>
    ((closed ++ [branches]).map groupStates).sum + 1 + statesOfGroups closed +
      statesOfGroup branches

/-- The number of states behind some groups of branches. -/
def statesOfGroups : List (List (Nat × WordTree)) → Nat
  | [] => 0
  | group :: groups => statesOfGroup group + statesOfGroups groups

/-- The number of states behind a group of branches. -/
def statesOfGroup : List (Nat × WordTree) → Nat
  | [] => 0
  | (_, t) :: rest => (if t.isLeaf then 0 else t.states) + statesOfGroup rest

end

mutual

/-- The bytes of the states of a tree beyond their number. The fork of a node can go to each of its
groups, and to the end for each word that ends there. -/
def extra : WordTree → Nat
  | .node closed branches =>
    ((closed ++ [branches]).map fun g ↦ groupExtra g + wayOutSize * groupStates g).sum +
      wayOutSize * closed.length + extraOfGroups closed + extraOfGroup branches

/-- The bytes beyond their number of the states behind some groups of branches. -/
def extraOfGroups : List (List (Nat × WordTree)) → Nat
  | [] => 0
  | group :: groups => extraOfGroup group + extraOfGroups groups

/-- The bytes beyond their number of the states behind a group of branches. -/
def extraOfGroup : List (Nat × WordTree) → Nat
  | [] => 0
  | (_, t) :: rest => (if t.isLeaf then 0 else t.extra) + extraOfGroup rest

end

/-- One word: a fork and a state for every byte. -/
example : (ofWords [[1, 2, 3]]).states = 6 ∧ (ofWords [[1, 2, 3]]).extra = 12 := by decide

/-- A word that ends within another one. -/
example : (ofWords [[1, 2], [1]]).states = 4 ∧ (ofWords [[1, 2], [1]]).extra = 12 := by decide

end WordTree

end FilterLang.Pattern
