import FilterLang.Check.Misspelling
import FilterLang.Check.Report
import FilterLang.Check.Shape

/-!
# The structure of an expression

What can be seen from tokens and their neighbours: connectives at the ends, next to each other or
next to a parenthesis, parentheses around nothing, quotes that are not closed, characters that begin
nothing, and operators that are known misspellings.
-/

namespace FilterLang.Check

namespace Structure

/-- Whether a token is a connective. -/
def isLogic (t : Token) : Bool := t.lexeme.connective?.isSome

/-- What is wrong at the ends of an expression. A lone connective is blamed as the first token
only. -/
def ends (ts : List Token) : Report :=
  match ts.head?, ts.getLast? with
  | some first, some last =>
    .on (isLogic first) (.errorOn first (.startsWithLogic first.text) none) ++
      .on (isLogic last && 1 < ts.length) (.errorOn last (.endsWithLogic last.text) none)
  | _, _ => ⟨false, [.emptyExpression], [], []⟩

/-- What is wrong with two neighbours. -/
def neighbours (t u : Token) : Report :=
  .on (t.lexeme == .openParen && u.lexeme == .closeParen)
      (.errorAt t.start u.stop .emptyParentheses none) ++
    .on (isLogic t && isLogic u) (.errorOn u (.consecutiveLogic t.text u.text) none) ++
    .on (t.lexeme == .openParen && isLogic u) (.errorOn u (.nothingOnLeft u.text) none) ++
    .on (isLogic t && u.lexeme == .closeParen) (.errorOn t (.nothingOnRight t.text) none)

/-- What is wrong with a token by itself. -/
def alone (t : Token) : Report :=
  match t.lexeme with
  | .unclosed _ _ => .errorAt t.start (t.start + 1) .unmatchedQuote none
  | .stray _ => .errorOn t (.unexpectedCharacter t.text) none
  | _ => .empty

/-- Whether the operator of a condition is a known misspelling. -/
def misspelled (s : Shape) : Report :=
  match s.operator with
  | some t =>
    match t.lexeme.operator?, knownMisspelling? t.text with
    | none, some fix => .errorOn t (.unknownOperator t.text fix) fix
    | _, _ => .empty
  | none => .empty

end Structure

/-- Checks the structure of an expression. -/
def checkStructure (ts : List Token) (shapes : List Shape) : Report :=
  if ts.isEmpty then Structure.ends ts
  else
    Structure.ends ts ++ .join (List.zipWith Structure.neighbours ts ts.tail) ++
      .join (ts.map Structure.alone) ++ .join (shapes.map Structure.misspelled)

end FilterLang.Check
