import FilterLang.Text.CodeSet.Table

/-!
# Replacements of characters

A table says which characters are replaced, each by a text. It is kept in rows of entries that
ascend, and each row stands under its first code point, so that only one row is read to look a
character up. The code points of an entry are hexadecimal.

* `A=X` replaces one character, and `A=X,Y,Z` replaces as many characters in a row as there are
  texts.
* `A-B=X` replaces all characters of an interval, and `A:B=X` every second one. The first character
  of the text moves on along with the one that it replaces.

A text is given by its code points, which are apart by full stops. It may be empty.
-/

namespace FilterLang.Text

/-- The code points `first, first + step, …, last`, replaced by a text whose first character moves on
with them. -/
structure Replacement where
  first : Nat
  last : Nat
  step : Nat
  target : List Nat
  deriving Repr, DecidableEq

namespace Replacement

/-- A text with its first code point moved on. -/
def movedOn (d : Nat) : List Nat → List Nat
  | [] => []
  | n :: ns => (n + d) :: ns

/-- Whether an entry replaces a code point. -/
def covers (r : Replacement) (n : Nat) : Bool :=
  r.first ≤ n && n ≤ r.last && (n - r.first) % r.step == 0

/-- What a code point is replaced by. -/
def image? (r : Replacement) (n : Nat) : Option (List Nat) :=
  if r.covers n then some (movedOn (n - r.first) r.target) else none

/-- The code point that is replaced by a text. -/
def source? (r : Replacement) : List Nat → Option Nat
  | [] => none
  | m :: ms =>
    match r.target with
    | t :: ts =>
      let n := r.first + (m - t)
      if t ≤ m && ms == ts && r.covers n then some n else none
    | [] => none

/-- A code point that is replaced by a text is the source of that text. -/
theorem source?_of_image? {r : Replacement} {n m : Nat} {ms : List Nat}
    (h : r.image? n = some (m :: ms)) : r.source? (m :: ms) = some n := by
  unfold image? at h
  split at h
  · next hc =>
    cases ht : r.target with
    | nil => simp [ht, movedOn] at h
    | cons t ts =>
      rw [ht] at h
      simp only [movedOn, Option.some.injEq, List.cons.injEq] at h
      obtain ⟨rfl, rfl⟩ := h
      have hn : r.first ≤ n := by
        simp only [covers, Bool.and_eq_true, decide_eq_true_eq] at hc
        exact hc.1.1
      have hs : r.first + (n - r.first) = n := by omega
      simp [source?, ht, hs, hc]
  · simp at h

/-! ### Tables -/

/-- The value of hexadecimal digits. -/
def hexValue (s : String) : Nat := s.toList.foldl (fun n c ↦ 16 * n + CodeSet.digitValue c) 0

/-- The code points of a text. -/
def readTarget (s : String) : List Nat :=
  if s.isEmpty then [] else (s.splitOn ".").map hexValue

/-- Reads an entry. -/
def readEntry (entry : String) : List Replacement :=
  match entry.splitOn "=" with
  | [source, targets] =>
    match source.splitOn "-", source.splitOn ":" with
    | [a, b], _ => [⟨hexValue a, hexValue b, 1, readTarget targets⟩]
    | _, [a, b] => [⟨hexValue a, hexValue b, 2, readTarget targets⟩]
    | _, _ =>
      let a := hexValue source
      ((targets.splitOn ",").map readTarget).zipIdx.map fun (target, i) ↦
        ⟨a + i, a + i, 1, target⟩
  | _ => []

/-- Reads a row. -/
def readRow (row : String) : List Replacement := (CodeSet.namesIn row).flatMap readEntry

/-- A table of replacements: its rows in ascending order, each under its first code point. -/
abbrev Table := List (Nat × String)

namespace Table

/-- The row that a code point would stand in. -/
def rowOf (t : Table) (n : Nat) : String :=
  ((t.takeWhile (·.1 ≤ n)).getLast?.map (·.2)).getD ""

/-- What a character is replaced by, if a table replaces it. -/
def find? (t : Table) (c : Char) : Option (List Char) :=
  ((readRow (t.rowOf c.toNat)).findSome? (·.image? c.toNat)).map (·.map Char.ofNat)

/-- The character that a table replaces by a text. -/
def source? (t : Table) (cs : List Char) : Option Char :=
  (t.findSome? fun row ↦ (readRow row.2).findSome? (·.source? (cs.map Char.toNat))).map Char.ofNat

end Table

end Replacement

end FilterLang.Text
