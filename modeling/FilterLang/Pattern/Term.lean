import FilterLang.Pattern
import FilterLang.Text.CodeSet.Algebra

/-!
# Terms

The meaning of a regular expression is a term: directives have taken effect, properties have become
sets of characters, and groups whose match is not kept are gone. A term is kept simple by the
functions that make it, and it is the simple form whose automaton is built:

* a class of one character is that character, and a class of none a class that fails;
* rows are flat, hold no empty text, and characters next to each other are one text;
* what matches only the empty text is repeated at most once;
* alternatives are flat, alternatives of single characters or classes are one class, and rows that
  begin alike share their beginning.

Each of these functions has the rule in its doc comment, and `Term.minLength` and `Term.maxLength`
say how many bytes a term can match.
-/

namespace FilterLang.Pattern

/-- A condition on the place in a text, with the modes that matter for it. -/
inductive Look where
  | textStart
  | textEnd
  | lineStart (crlf : Bool)
  | lineEnd (crlf : Bool)
  | boundary (kind : Boundary) (unicode : Bool)
  deriving Repr, DecidableEq

/-- The meaning of a regular expression. -/
inductive Term where
  | empty
  | literal (text : List Char)
  /-- One character of a set. In a bytewise class the characters are read as single bytes. -/
  | letters (bytewise : Bool) (set : CodeSet)
  | look (kind : Look)
  | repetition (least : Nat) (most : Option Nat) (greedy : Bool) (item : Term)
  /-- A term whose match is kept. -/
  | capture (item : Term)
  | concat (items : List Term)
  | alternation (items : List Term)
  deriving Repr

instance : Inhabited Term := ⟨.empty⟩

namespace Term

/-! ### Lengths -/

/-- The number of bytes of the character with a code point. -/
def byteLength (n : Nat) : Nat :=
  if n < 0x80 then 1 else if n < 0x800 then 2 else if n < 0x10000 then 3 else 4

mutual

/-- The least number of bytes that a term matches. A class without characters matches nothing. -/
def minLength : Term → Option Nat
  | empty => some 0
  | literal text => some ((text.map Char.utf8Size).sum)
  | letters _ set => set.head?.map fun r ↦ byteLength r.1
  | look _ => some 0
  | repetition least _ _ item => item.minLength.map (· * least)
  | capture item => item.minLength
  | concat items => minLengthRow items
  | alternation items => minLengthAny items

/-- The least number of bytes that a row matches. -/
def minLengthRow : List Term → Option Nat
  | [] => some 0
  | t :: ts => do return (← t.minLength) + (← minLengthRow ts)

/-- The least number of bytes that one of some alternatives matches, if each matches something. -/
def minLengthAny : List Term → Option Nat
  | [] => none
  | [t] => t.minLength
  | t :: ts => do return min (← t.minLength) (← minLengthAny ts)

end

mutual

/-- The greatest number of bytes that a term matches, if there is one and it matches something. -/
def maxLength : Term → Option Nat
  | empty => some 0
  | literal text => some ((text.map Char.utf8Size).sum)
  | letters _ set => set.getLast?.map fun r ↦ byteLength r.2
  | look _ => some 0
  | repetition _ most _ item => do return (← item.maxLength) * (← most)
  | capture item => item.maxLength
  | concat items => maxLengthRow items
  | alternation items => maxLengthAny items

/-- The greatest number of bytes that a row matches. -/
def maxLengthRow : List Term → Option Nat
  | [] => some 0
  | t :: ts => do return (← t.maxLength) + (← maxLengthRow ts)

/-- The greatest number of bytes that one of some alternatives matches. -/
def maxLengthAny : List Term → Option Nat
  | [] => none
  | [t] => t.maxLength
  | t :: ts => do return max (← t.maxLength) (← maxLengthAny ts)

end

/-- Whether a term matches the empty text alone. -/
def isVoid (t : Term) : Bool := t.maxLength == some 0

/-! ### Equality -/

mutual

/-- Whether two terms are the same. A term whose match is kept is the same as no other one, since
each keeps its match in a place of its own. -/
def same : Term → Term → Bool
  | empty, empty => true
  | literal a, literal b => a == b
  | letters x s, letters y t => x == y && s == t
  | look a, look b => a == b
  | repetition n m g t, repetition n' m' g' u => n == n' && m == m' && g == g' && t.same u
  | concat ts, concat us => sameAll ts us
  | alternation ts, alternation us => sameAll ts us
  | _, _ => false

/-- Whether two lists of terms are the same. -/
def sameAll : List Term → List Term → Bool
  | [], [] => true
  | t :: ts, u :: us => t.same u && sameAll ts us
  | _, _ => false

end

/-! ### Classes and repetitions -/

/-- A class of no characters. -/
def fail : Term := .letters true []

/-- A class of characters. One of a single character is that character. -/
def ofSet (bytewise : Bool) : CodeSet → Term
  | [] => fail
  | [(a, b)] => if a == b then .literal [Char.ofNat a] else .letters bytewise [(a, b)]
  | set => .letters bytewise set

/-- A term repeated. What matches the empty text alone is repeated at most once. No repetition at
all is the empty text, and exactly one is the term itself. -/
def ofRepetition (least : Nat) (most : Option Nat) (greedy : Bool) (item : Term) : Term :=
  let (least, most) :=
    if item.isVoid then (min least 1, some ((most.map (min · 1)).getD 1)) else (least, most)
  if least == 0 && most == some 0 then .empty
  else if least == 1 && most == some 1 then item
  else .repetition least most greedy item

/-! ### Rows -/

/-- The items of a term in a row. -/
def rowItems : Term → List Term
  | concat items => items
  | t => [t]

/-- Joins the texts next to each other and leaves empty texts out. -/
def joinTexts : List Term → List Term
  | [] => []
  | .empty :: ts => joinTexts ts
  | .literal a :: ts =>
    match joinTexts ts with
    | .literal b :: rest => .literal (a ++ b) :: rest
    | rest => .literal a :: rest
  | t :: ts => t :: joinTexts ts

/-- Terms in a row. No term is the empty text, and a single one stands for itself. -/
def ofRow (ts : List Term) : Term :=
  match joinTexts (ts.flatMap rowItems) with
  | [] => .empty
  | [t] => t
  | ts => .concat ts

/-! ### Alternatives -/

/-- The alternatives of a term. -/
def choices : Term → List Term
  | alternation items => items
  | t => [t]

/-- The code point of a term that is a single character. -/
def codePoint? : Term → Option Nat
  | literal [c] => some c.toNat
  | _ => none

/-- The characters of a term that is a class. -/
def classSet? : Term → Option CodeSet
  | letters _ set => some set
  | _ => none

/-- The class that alternatives make together, if all are single characters or all are classes. -/
def mergedClass? (ts : List Term) : Option Term :=
  match ts.mapM codePoint? with
  | some codes => some (ofSet false (CodeSet.canonical (codes.map fun n ↦ (n, n))))
  | none => (ts.mapM classSet?).map fun sets ↦ ofSet false (CodeSet.canonical sets.flatten)

/-- The items with which two rows begin alike. -/
def sharedStart : List Term → List Term → List Term
  | t :: ts, u :: us => if t.same u then t :: sharedStart ts us else []
  | _, _ => []

/-- The items with which all of some rows begin alike. There are none if one is no row. -/
def commonStart : List Term → List Term
  | [] => []
  | t :: ts =>
    let row : Term → List Term
      | concat items => items
      | _ => []
    ts.foldl (fun shared u ↦ sharedStart shared (row u)) (row t)

/-- Alternatives, with what they begin with alike in front. A single one stands for itself, and
none fail. Fuel bounds how often a common beginning is found. -/
def ofChoicesWithin (fuel : Nat) (ts : List Term) : Term :=
  match ts.flatMap choices with
  | [] => fail
  | [t] => t
  | ts =>
    match mergedClass? ts with
    | some t => t
    | none =>
      match fuel, commonStart ts with
      | _, [] => .alternation ts
      | 0, _ => .alternation ts
      | fuel + 1, shared =>
        let rests := ts.map fun t ↦ ofRow (t.rowItems.drop shared.length)
        ofRow (shared ++ [ofChoicesWithin fuel rests])

mutual

/-- The number of parts of a term. -/
def size : Term → Nat
  | repetition _ _ _ item => item.size + 1
  | capture item => item.size + 1
  | concat items => sizeAll items + 1
  | alternation items => sizeAll items + 1
  | _ => 1

/-- The number of parts of some terms. -/
def sizeAll : List Term → Nat
  | [] => 0
  | t :: ts => t.size + sizeAll ts

end

/-- Alternatives. Each common beginning that is found takes a part away from every one of them. -/
def ofChoices (ts : List Term) : Term := ofChoicesWithin (sizeAll ts) ts

/-! ### Conditions at the ends -/

mutual

/-- Whether every match of a term must begin at a place with a condition. With `backward`, whether
it must end there. -/
def demands (backward : Bool) (kind : Look) : Term → Bool
  | look k => k == kind
  | repetition least _ _ item => 0 < least && item.demands backward kind
  | capture item => item.demands backward kind
  | concat items => if backward then demandsLast kind items else demandsFirst kind items
  | alternation items => !items.isEmpty && demandsEach backward kind items
  | _ => false

/-- Whether a row must begin at a place with a condition: one of its items must, before any of them
takes a character. -/
def demandsFirst (kind : Look) : List Term → Bool
  | [] => false
  | t :: ts => t.demands false kind || (t.isVoid && demandsFirst kind ts)

/-- Whether a row must end at a place with a condition. -/
def demandsLast (kind : Look) : List Term → Bool
  | [] => false
  | t :: ts => demandsLast kind ts || ((ts.all fun u ↦ u.isVoid) && t.demands true kind)

/-- Whether every one of some alternatives demands a condition. -/
def demandsEach (backward : Bool) (kind : Look) : List Term → Bool
  | [] => true
  | t :: ts => t.demands backward kind && demandsEach backward kind ts

end

end Term

end FilterLang.Pattern
