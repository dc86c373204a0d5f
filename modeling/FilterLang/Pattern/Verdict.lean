import FilterLang.Pattern.Automaton
import FilterLang.Pattern.Meaning
import FilterLang.Pattern.Reader

/-!
# Which texts are regular expressions

A text is a regular expression if it can be read as one, what was read has a meaning, and its
automata are not too large. Reading comes first, so a text with faults of several kinds has the
fault of its form.
-/

namespace FilterLang.Pattern

/-- Reads a regular expression and checks its meaning and its size. -/
def compile (caseSensitive : Bool) (cs : List Char) : Except Fault Term := do
  let n ← read cs
  let (t, _) ← n.meaning (.start caseSensitive)
  t.checkSize
  return t

/-- What is wrong with a text that should be a regular expression. -/
def fault? (caseSensitive : Bool) (text : String) : Option Fault :=
  match compile caseSensitive text.toList with
  | .ok _ => none
  | .error f => some f

end FilterLang.Pattern
