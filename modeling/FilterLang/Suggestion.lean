import FilterLang.EditDistance
import FilterLang.Text.Lowercase

/-!
# Suggestions for mistyped names

Every "did you mean" of the library comes from `suggest`, so one word always gets one hint. Words
are compared in lower case, and empty candidates are never offered. In order of priority: a
candidate that is the word, one that starts with it, one that holds it, and last the most similar
one, if it is similar enough. Within each step the earliest candidate wins.
-/

namespace FilterLang.Suggestion

/-- A similar candidate is offered only above this score of three fifths. -/
def threshold : Rat := Decimal.nearest 3 5

/-- A word of fewer characters is not looked for inside candidates. -/
def minPartialLength : Nat := 3

/-- How alike two words are, without regard to case. -/
def score (a b : String) : Rat :=
  EditDistance.similarity (Text.lowercase a.toList) (Text.lowercase b.toList)

/-- Whether `needle` stands somewhere in a text. -/
def occursIn (needle : List Char) : List Char → Bool
  | [] => needle.isEmpty
  | c :: rest => needle.isPrefixOf (c :: rest) || occursIn needle rest

/-- A candidate in lower case, beside its own spelling. -/
structure Candidate where
  lower : List Char
  spelling : String
  deriving Repr

/-- The candidates that can be offered. -/
def Candidate.list (candidates : List String) : List Candidate :=
  (candidates.map fun c ↦ ⟨Text.lowercase c.toList, c⟩).filter fun c ↦ !c.lower.isEmpty

/-- The earliest candidate of the greatest likeness to `needle`, and that likeness. -/
def mostSimilar (likeness : List Char → List Char → Rat) (needle : List Char) :
    List Candidate → Option (Candidate × Rat) :=
  List.foldl (fun best c ↦
    let s := likeness needle c.lower
    match best with
    | none => some (c, s)
    | some (_, t) => if t < s then some (c, s) else best) none

/-- The candidate to offer for `word`, where `likeness` says how alike two words in lower case
are. -/
def suggestBy (likeness : List Char → List Char → Rat) (word : String) (candidates : List String) :
    Option String :=
  let needle := Text.lowercase word.toList
  let known := Candidate.list candidates
  if needle.isEmpty then none
  else
    let exact := known.find? fun c ↦ c.lower == needle
    let partialMatch :=
      if needle.length < minPartialLength then none
      else
        (known.find? fun c ↦ needle.isPrefixOf c.lower).or
          (known.find? fun c ↦ occursIn needle c.lower)
    match exact.or partialMatch with
    | some c => some c.spelling
    | none =>
      match mostSimilar likeness needle known with
      | some (c, s) => if threshold < s then some c.spelling else none
      | none => none

/-- The candidate to offer for `word`. -/
def suggest (word : String) (candidates : List String) : Option String :=
  suggestBy EditDistance.similarity word candidates

end FilterLang.Suggestion
