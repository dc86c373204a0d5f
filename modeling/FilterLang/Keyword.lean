import FilterLang.Text.Ascii

/-!
# The reserved words

Four kinds of words have a meaning of their own in an expression: the comparisons a condition can
make, the operators obtained from them by the two modifiers, the connectives, and the modifiers
written as words.

An operator is a comparison together with two flags. Its keyword puts the flags in front, negation
first, so each of the five comparisons has four keywords and no other spelling is an operator:
`case_sensitive_not_contains` is an ordinary word.
-/

namespace FilterLang

/-! ### Comparisons -/

/-- What a condition asks of the field it names. -/
inductive Comparison where
  | contains
  | equals
  /-- The value is a regular expression that matches somewhere in the field. -/
  | pattern
  | startsWith
  | endsWith
  deriving Repr, DecidableEq

namespace Comparison

/-- Every comparison, in the order in which they are offered. -/
def all : List Comparison := [contains, equals, pattern, startsWith, endsWith]

/-- The word for a comparison. -/
def keyword : Comparison → String
  | contains => "contains"
  | equals => "equals"
  | pattern => "matches"
  | startsWith => "starts_with"
  | endsWith => "ends_with"

end Comparison

/-! ### Modifiers -/

/-- A word that qualifies the operator of its condition. -/
inductive Modifier where
  | not
  | caseSensitive
  deriving Repr, DecidableEq

namespace Modifier

/-- Both modifiers. -/
def all : List Modifier := [not, caseSensitive]

/-- The word for a modifier. -/
def keyword : Modifier → String
  | not => "not"
  | caseSensitive => "case_sensitive"

/-- The modifier a word stands for, in any ASCII case. -/
def ofWord? (word : String) : Option Modifier := all.find? fun m ↦ Text.sameWord word m.keyword

end Modifier

/-! ### Operators -/

/-- A comparison and the modifiers folded into it. -/
structure Operator where
  comparison : Comparison
  negate : Bool
  caseSensitive : Bool
  deriving Repr, DecidableEq

namespace Operator

/-- The keyword of an operator: `not_` and `case_sensitive_`, each where its flag is set, before the
word of the comparison. -/
def keyword (o : Operator) : String :=
  (if o.negate then "not_" else "") ++ (if o.caseSensitive then "case_sensitive_" else "") ++
    o.comparison.keyword

/-- The twenty operators: the plain ones, the negated, the case-sensitive and those with both
modifiers. -/
def all : List Operator :=
  [(false, false), (true, false), (false, true), (true, true)].flatMap fun (negate, caseSensitive) ↦
    Comparison.all.map fun comparison ↦ ⟨comparison, negate, caseSensitive⟩

/-- The twenty keywords, in the order of the operators. -/
def keywords : List String := all.map keyword

/-- The operator that a keyword names. -/
def ofKeyword? (word : String) : Option Operator := all.find? fun o ↦ o.keyword == word

/-- The operator with one more modifier. -/
def modify (o : Operator) : Modifier → Operator
  | .not => { o with negate := true }
  | .caseSensitive => { o with caseSensitive := true }

theorem mem_all (o : Operator) : o ∈ all := by
  obtain ⟨c, n, s⟩ := o
  cases c <;> cases n <;> cases s <;> simp [all, Comparison.all]

/-- A keyword is read back as the operator that wrote it. -/
theorem ofKeyword?_keyword (o : Operator) : ofKeyword? o.keyword = some o := by
  obtain ⟨c, n, s⟩ := o
  cases c <;> cases n <;> cases s <;> decide

/-- Only the keyword of an operator is read as that operator. -/
theorem keyword_of_ofKeyword? {word : String} {o : Operator} (h : ofKeyword? word = some o) :
    o.keyword = word := by
  have := List.find?_some h
  simpa using this

end Operator

/-! ### Connectives -/

/-- How the children of a group are joined. -/
inductive Connective where
  | and
  | or
  deriving Repr, DecidableEq

namespace Connective

/-- The word for a connective. -/
def keyword : Connective → String
  | and => "AND"
  | or => "OR"

/-- The sign for a connective. -/
def glyph : Connective → String
  | and => "&&"
  | or => "||"

/-- The connective that a word of an expression stands for: `and` and `or` in any ASCII case, or one
of the two signs. -/
def ofWord? (word : String) : Option Connective :=
  [and, or].find? fun c ↦ Text.sameWord word c.keyword || word == c.glyph

/-- The connective that a stored filter names. In addition to the words of an expression, `all` and
`any` are understood, in any ASCII case. -/
def ofName? (name : String) : Option Connective :=
  [(and, ["and", "all", "&&"]), (or, ["or", "any", "||"])].findSome? fun (c, names) ↦
    if names.contains (Text.asciiLowered name) then some c else none

/-- The spellings that a node of a stored tree may use for a connective. -/
def spellings : Connective → List String
  | and => ["AND", "and", "all", "ALL"]
  | or => ["OR", "or", "any", "ANY"]

/-- The connective that a node of a stored tree names. -/
def ofSpelling? (name : String) : Option Connective :=
  [and, or].find? fun c ↦ c.spellings.contains name

end Connective

end FilterLang
