import FilterLang.Diff.MiddleSnake
import FilterLang.Diff.Shift

/-!
# Comparing two lists

What two lists have in common at their ends is kept, and what is left between is split where the two
searches of `Grid.middle` meet. Pieces of which one side is empty are deleted or inserted.
-/

namespace FilterLang.Diff

variable {α : Type} [BEq α]

/-- A run of kept items, if there are any. -/
def kept (items : List α) : Script α := if items.isEmpty then [] else [.keep items]

/-- The script of two lists, split at most `fuel` times in a row. -/
def split : Nat → List α → List α → Script α
  | 0, before, after => [.delete before, .insert after]
  | fuel + 1, before, after =>
    let start := commonPrefix before after
    let before' := before.drop start
    let after' := after.drop start
    let stop := commonSuffix before' after'
    let inner := before'.take (before'.length - stop)
    let inner' := after'.take (after'.length - stop)
    let between : Script α :=
      match inner, inner' with
      | [], [] => []
      | deleted, [] => [.delete deleted]
      | [], inserted => [.insert inserted]
      | xs, ys =>
        match Grid.middle ⟨xs.toArray, ys.toArray⟩ with
        | some (x, y) =>
          split fuel (xs.take x) (ys.take y) ++ split fuel (xs.drop x) (ys.drop y)
        | none => [.delete xs, .insert ys]
    kept (before.take start) ++ between ++ kept (before'.drop (before'.length - stop))

/-- A short script that leads from one list to another. -/
def ofLists (before after : List α) : Script α :=
  Script.tidy (split (before.length + after.length + 1) before after)

/-! ### Changes in order -/

/-- A change of one item. -/
inductive Change (α : Type) where
  | deleted (item : α)
  | inserted (item : α)
  deriving Repr, DecidableEq

/-- The changes of a script. Between two kept runs all deletions come before all insertions;
`deletions` and `insertions` are those since the last kept run. -/
def changesFrom (deletions insertions : List α) : Script α → List (Change α)
  | [] => deletions.map .deleted ++ insertions.map .inserted
  | .keep _ :: rest =>
    deletions.map .deleted ++ insertions.map .inserted ++ changesFrom [] [] rest
  | .delete items :: rest => changesFrom (deletions ++ items) insertions rest
  | .insert items :: rest => changesFrom deletions (insertions ++ items) rest

/-- The changes of a script, in the order in which they are shown. -/
def Script.changes (s : Script α) : List (Change α) := changesFrom [] [] s

end FilterLang.Diff
