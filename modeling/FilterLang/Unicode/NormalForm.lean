import FilterLang.Unicode.CombiningClass
import FilterLang.Unicode.Composition

/-!
# The composed normal form

Texts that look the same can be written with different characters. The normal form picks one way to
write them: all characters are taken apart, the marks after each letter are put in the order of
their classes, and then each letter takes in the marks that it can be composed with.

A letter cannot take in a mark over another one that stands between them and could touch it, that
is, over one of the same class or of class 0.
-/

namespace FilterLang.Unicode

/-- A character with its combining class. -/
structure Classed where
  char : Char
  combining : Nat
  deriving Repr, DecidableEq

/-- A character together with the class that the tables give it. -/
def Classed.of (c : Char) : Classed := ⟨c, combiningClass c⟩

/-! ### The order of marks -/

/-- Puts a character before others that are in order. A mark goes behind the marks of lower classes
at their front, so that marks of one class keep their order. -/
def place (x : Classed) : List Classed → List Classed
  | [] => [x]
  | y :: ys => if 0 < y.combining && y.combining < x.combining then y :: place x ys else x :: y :: ys

/-- The characters with the marks after each letter in the order of their classes. -/
def inOrder (xs : List Classed) : List Classed := xs.foldr place []

/-! ### Composition -/

/-- Composes characters after a letter that came before. `kept` are the marks since that it did not
take in, the last first. -/
def composeFrom (letter : Char) (kept : List Classed) : List Classed → List Char
  | [] => letter :: (kept.reverse.map (·.char))
  | x :: xs =>
    let blocked := kept.head?.any fun y ↦ x.combining ≤ y.combining
    match if blocked then none else composite? letter x.char with
    | some c => composeFrom c kept xs
    | none =>
      if x.combining == 0 then letter :: (kept.reverse.map (·.char) ++ composeFrom x.char [] xs)
      else composeFrom letter (x :: kept) xs

/-- Composes characters. Marks before the first letter stay as they are. -/
def compose : List Classed → List Char
  | [] => []
  | x :: xs => if x.combining == 0 then composeFrom x.char [] xs else x.char :: compose xs

/-- The composed normal form of a text. -/
def normalForm (cs : List Char) : List Char :=
  compose (inOrder ((cs.flatMap (decompose maxDepth)).map Classed.of))

end FilterLang.Unicode
