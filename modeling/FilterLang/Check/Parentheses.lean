import FilterLang.Check.Report

/-!
# The balance of parentheses

Parentheses are matched on the characters of the expression, in one pass with a stack of those that
are open. Inside quotes they are text; a quote is closed by the next one of its kind.
-/

namespace FilterLang.Check

namespace Parentheses

/-- The positions of parentheses without a partner. -/
structure Unmatched where
  /-- Closing parentheses, from left to right. -/
  closing : List Nat
  /-- Opening parentheses, from left to right. -/
  opening : List Nat
  deriving Repr, DecidableEq

/-- Matches the parentheses of a text that starts at byte `offset`. `quote` is the quote that is
open there, if any, and `stack` holds the open parentheses, the innermost first. -/
def scan (offset : Nat) (quote : Option Char) (stack : List Nat) : List Char → Unmatched
  | [] => ⟨[], stack.reverse⟩
  | c :: cs =>
    let next := offset + c.utf8Size
    match quote with
    | some q => scan next (if c == q then none else quote) stack cs
    | none =>
      if c == '"' || c == '\'' then scan next (some c) stack cs
      else if c == '(' then scan next none (offset :: stack) cs
      else if c == ')' then
        match stack with
        | [] =>
          let u := scan next none [] cs
          ⟨offset :: u.closing, u.opening⟩
        | _ :: stack => scan next none stack cs
      else scan next none stack cs

/-- The unmatched parentheses of a text. -/
def unmatched (text : String) : Unmatched := scan 0 none [] text.toList

end Parentheses

/-- Checks that every parenthesis has a partner. Closing parentheses are reported first. -/
def checkParentheses (text : String) : Report :=
  let u := Parentheses.unmatched text
  .join (u.closing.map fun i ↦ .errorAt i (i + 1) .unmatchedClosing none) ++
    .join (u.opening.map fun i ↦ .errorAt i (i + 1) .unclosedOpening none)

end FilterLang.Check
