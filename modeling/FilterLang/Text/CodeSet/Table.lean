import FilterLang.Text.CodeSet

/-!
# Sets of code points written as a text

A property with many intervals is kept as a text, which is shorter than a list of pairs and is only
read when the property is asked for. The entries of such a table are apart by blanks or line feeds.
An entry is a code point in hexadecimal digits, an interval `A-B`, or a row `A:B` of every second
code point, which is how capital and small letters alternate in many alphabets.
-/

namespace FilterLang.CodeSet

/-- The value of a hexadecimal digit. Tables use capital letters. -/
def digitValue (c : Char) : Nat := if c.isDigit then c.toNat - 48 else c.toNat - 55

/-- How the ends of an entry belong together. -/
inductive Join where
  | single
  | interval (first : Nat)
  | everySecond (first : Nat)
  deriving Repr, DecidableEq

/-- The intervals of an entry with the given last code point. -/
def Join.close (last : Nat) : Join → CodeSet
  | single => [(last, last)]
  | interval first => [(first, last)]
  | everySecond first =>
    (List.range ((last - first) / 2 + 1)).map fun i ↦ (first + 2 * i, first + 2 * i)

/-- Reads the rest of a table, given what was read of the current entry: how it began, and the value
of the digits since, if there are any. -/
def readTable (join : Join) (n : Option Nat) : List Char → CodeSet
  | [] => closed
  | c :: cs =>
    if c == ' ' || c == '\n' then closed ++ readTable .single none cs
    else if c == '-' then readTable (.interval (n.getD 0)) none cs
    else if c == ':' then readTable (.everySecond (n.getD 0)) none cs
    else readTable join (some (16 * n.getD 0 + digitValue c)) cs
where
  /-- The intervals of the current entry. -/
  closed : CodeSet := (n.map fun last ↦ join.close last).getD []

/-- The set that a table holds. -/
def ofTable (s : String) : CodeSet := readTable .single none s.toList

/-- The names in a text, or its entries, which are apart as in a table. -/
def namesIn (s : String) : List String :=
  (s.splitToList fun c ↦ c == ' ' || c == '\n').filter fun name ↦ !name.isEmpty

/-- The three kinds of entries. -/
example : ofTable "41-5A B5
    100:104" =
    [(0x41, 0x5A), (0xB5, 0xB5), (0x100, 0x100), (0x102, 0x102), (0x104, 0x104)] := by
  decide +kernel

end FilterLang.CodeSet
