import FilterLang.Json

/-!
# Reading JSON structure

Arrays and objects are read the same way in both dialects of this library. What differs is in a
`Dialect`: the text to skip between tokens, the scalars, the keys, whether a comma may stand before
a closing bracket, and how deep brackets may nest.

A reader takes a text and returns, with its result, strictly less text. Of the ways to fail only two
are told apart: the text ended where more was needed, or it holds something that cannot stand there.
-/

namespace FilterLang.Json

/-- Why a text is not JSON. -/
inductive ReadFault where
  /-- The text ended too early. -/
  | unfinished
  /-- Any other fault. -/
  | malformed
  deriving Repr, DecidableEq

/-- A result and the text that is left, less than there was. -/
abbrev Read (α : Type) (cs : List Char) : Type :=
  Except ReadFault (α × { rest : List Char // rest.length < cs.length })

/-- A way of reading a beginning of a text. -/
abbrev Reader (α : Type) : Type := (cs : List Char) → Read α cs

/-- Text of which nothing is left out but a beginning. -/
abbrev Rest (cs : List Char) : Type := { rest : List Char // rest.length ≤ cs.length }

/-! ### What is left -/

section

variable {rest after left : List Char}

theorem le_self : rest.length ≤ rest.length := Nat.le_refl _

theorem lt_cons : rest.length < rest.length + 1 := Nat.lt_succ_self _

theorem lt_cons_cons : rest.length < rest.length + 1 + 1 := by omega

theorem lt_cons_cons_cons : rest.length < rest.length + 1 + 1 + 1 := by omega

theorem lt_cons_of_lt (h : after.length < rest.length) : after.length < rest.length + 1 :=
  Nat.lt_succ_of_lt h

theorem lt_cons_of_le (h : after.length ≤ rest.length) : after.length < rest.length + 1 :=
  Nat.lt_succ_of_le h

theorem lt_cons_of_lt_of_lt (h : after.length < rest.length) (h' : left.length < after.length) :
    left.length < rest.length + 1 :=
  lt_cons_of_lt (Nat.lt_trans h' h)

theorem dropWhile_le_cons {p : Char → Bool} :
    (rest.dropWhile p).length ≤ rest.length + 1 :=
  Nat.le_succ_of_le (List.dropWhile_suffix p).length_le

end

/-! ### Dialects -/

/-- What a dialect of JSON decides. -/
structure Dialect where
  /-- Skips what may stand between tokens. -/
  skip : (cs : List Char) → Except ReadFault (Rest cs)
  /-- Reads a value that is neither an array nor an object. -/
  scalar : Reader Json
  /-- Reads the key of a member. -/
  key : Reader String
  /-- Whether a comma may stand before a closing bracket. -/
  trailingComma : Bool

namespace Dialect

variable (d : Dialect)

/-- What follows an item: another item or the end of its brackets. -/
inductive Next where
  | item
  | close
  deriving Repr, DecidableEq

/-- Reads what stands between an item and the next, or the closing bracket. -/
def afterItem (closing : Char) (cs : List Char) : Read Next cs := do
  let ⟨rest, h⟩ ← d.skip cs
  match rest, h with
  | [], _ => .error .unfinished
  | c :: after, h =>
    if c == closing then
      return (.close, ⟨after, by simp only [List.length_cons] at h; omega⟩)
    else if c == ',' then
      let ⟨next, h'⟩ ← d.skip after
      match next, h' with
      | [], _ => .error .unfinished
      | c' :: beyond, h' =>
        if c' == closing then
          if d.trailingComma then
            return (.close, ⟨beyond, by simp only [List.length_cons] at h h'; omega⟩)
          else .error .malformed
        else return (.item, ⟨c' :: beyond, by simp only [List.length_cons] at h h' ⊢; omega⟩)
    else .error .malformed

/-- Reads the items of an array from the first one on. -/
def items (value : Reader Json) (cs : List Char) : Read (List Json) cs := do
  let (v, ⟨after, h⟩) ← value cs
  let (next, ⟨rest, h'⟩) ← d.afterItem ']' after
  match next with
  | .close => return ([v], ⟨rest, by omega⟩)
  | .item =>
    let (vs, ⟨rest', h''⟩) ← items value rest
    return (v :: vs, ⟨rest', by omega⟩)
termination_by cs.length
decreasing_by omega

/-- Reads a member of an object: a key, a colon and a value. -/
def member (value : Reader Json) (cs : List Char) : Read (String × Json) cs := do
  let (key, ⟨after, h⟩) ← d.key cs
  let ⟨rest, h'⟩ ← d.skip after
  match rest, h' with
  | [], _ => .error .unfinished
  | c :: beyond, h' =>
    if c == ':' then
      let (v, ⟨rest, h''⟩) ← value beyond
      return ((key, v), ⟨rest, by simp only [List.length_cons] at h'; omega⟩)
    else .error .malformed

/-- Reads the members of an object from the first one on. -/
def members (value : Reader Json) (cs : List Char) : Read (List (String × Json)) cs := do
  let (m, ⟨after, h⟩) ← d.member value cs
  let (next, ⟨rest, h'⟩) ← d.afterItem '}' after
  match next with
  | .close => return ([m], ⟨rest, by omega⟩)
  | .item =>
    let (ms, ⟨rest', h''⟩) ← members value rest
    return (m :: ms, ⟨rest', by omega⟩)
termination_by cs.length
decreasing_by omega

/-- Reads what follows an opening bracket: its items, or the closing bracket at once. -/
def bracketed {α : Type} (closing : Char) (items : Reader (List α)) (cs : List Char) :
    Read (List α) cs := do
  let ⟨rest, h⟩ ← d.skip cs
  match rest, h with
  | [], _ => .error .unfinished
  | c :: after, h =>
    if c == closing then return ([], ⟨after, by simp only [List.length_cons] at h; omega⟩)
    else
      let (xs, ⟨rest', h'⟩) ← items (c :: after)
      return (xs, ⟨rest', by omega⟩)

/-- Reads a value with brackets nested at most `depth` deep. -/
def value (depth : Nat) : Reader Json := fun cs ↦ do
  let ⟨rest, h⟩ ← d.skip cs
  match rest, h with
  | [], _ => .error .unfinished
  | c :: after, h =>
    if c == '[' then
      match depth with
      | 0 => .error .malformed
      | depth + 1 =>
        let (vs, ⟨rest', h'⟩) ← d.bracketed ']' (d.items (value depth)) after
        return (.arr vs, ⟨rest', by simp only [List.length_cons] at h; omega⟩)
    else if c == '{' then
      match depth with
      | 0 => .error .malformed
      | depth + 1 =>
        let (ms, ⟨rest', h'⟩) ← d.bracketed '}' (d.members (value depth)) after
        return (.ofMembers ms, ⟨rest', by simp only [List.length_cons] at h; omega⟩)
    else
      let (v, ⟨rest', h'⟩) ← d.scalar (c :: after)
      return (v, ⟨rest', by omega⟩)

/-- Reads a text that holds one value and nothing else. -/
def document (depth : Nat) (text : String) : Except ReadFault Json := do
  let (v, ⟨rest, _⟩) ← d.value depth text.toList
  let ⟨rest', _⟩ ← d.skip rest
  if rest'.isEmpty then return v else .error .malformed

end Dialect

end FilterLang.Json
