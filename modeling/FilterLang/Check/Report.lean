import FilterLang.Expression

/-!
# Findings

A check reports what it finds and never stops at the first problem. A `Problem` is a cause; its
wording is given once, by `Problem.message`. A `Report` keeps the problems that make an expression
wrong, those that only deserve a warning, and the places to mark, each in the order in which they
were found, with a verdict that a check gives when it records the first kind. Reports are joined one
after another.
-/

namespace FilterLang.Check

/-! ### Problems -/

/-- What a check can find. -/
inductive Problem where
  | emptyExpression
  | startsWithLogic (text : String)
  | endsWithLogic (text : String)
  | emptyParentheses
  | consecutiveLogic (first second : String)
  | nothingOnLeft (text : String)
  | nothingOnRight (text : String)
  | unmatchedQuote
  | unexpectedCharacter (text : String)
  | unmatchedClosing
  | unclosedOpening
  | missingField (operator : String)
  | unknownField (name : String) (hint : Option String)
  | missingOperator (field : String)
  | unknownOperator (word : String) (hint : Option String)
  | missingValue (operator : String)
  | unquotedValue (word : String)
  | unclosedValue (offset : Nat)
  | emptyValue
  | badPattern (reason : String)
  /-- The expression has none of the problems above and yet no tree. -/
  | noTree (fault : ParseFault)
  deriving Repr, DecidableEq

/-- A name that is not known, and perhaps the one that was meant. -/
def Problem.unknown (what name : String) : Option String → String
  | some hint => "Unknown " ++ what ++ " '" ++ name ++ "', did you mean '" ++ hint ++ "'?"
  | none => "Unknown " ++ what ++ " '" ++ name ++ "'"

/-- The words for a problem. -/
def Problem.message : Problem → String
  | emptyExpression => "Filter expression is empty"
  | startsWithLogic text => "Expression cannot start with '" ++ text ++ "'"
  | endsWithLogic text => "Expression cannot end with '" ++ text ++ "'"
  | emptyParentheses => "Empty parentheses"
  | consecutiveLogic first second =>
    "Consecutive logical operators '" ++ first ++ "' and '" ++ second ++ "'"
  | nothingOnLeft text => "'" ++ text ++ "' has nothing on its left"
  | nothingOnRight text => "'" ++ text ++ "' has nothing on its right"
  | unmatchedQuote => "Unmatched quote"
  | unexpectedCharacter text => "Unexpected character '" ++ text ++ "'"
  | unmatchedClosing => "Unmatched closing parenthesis"
  | unclosedOpening => "Unclosed opening parenthesis"
  | missingField operator => "Missing field name before operator '" ++ operator ++ "'"
  | unknownField name hint => unknown "field" name hint
  | missingOperator field => "Missing operator after field '" ++ field ++ "'"
  | unknownOperator word hint => unknown "operator" word hint
  | missingValue operator => "Missing value after operator '" ++ operator ++ "'"
  | unquotedValue word => "Missing quotes around value '" ++ word ++ "'"
  | unclosedValue offset => "Unterminated quoted value at offset " ++ toString offset
  | emptyValue => "Empty value will match almost nothing"
  | badPattern reason => "Not a valid regular expression: " ++ reason
  | noTree fault => fault.message

/-! ### Places to mark -/

/-- How bad a problem is. -/
inductive Severity where
  | error
  | warning
  deriving Repr, DecidableEq

/-- The name of a severity. -/
def Severity.name : Severity → String
  | error => "error"
  | warning => "warning"

/-- A range of bytes of the expression to mark, the problem there, and perhaps a text to put in its
place. -/
structure Highlight where
  start : Nat
  stop : Nat
  severity : Severity
  problem : Problem
  suggestion : Option String
  deriving Repr, DecidableEq

/-- The words for the problem at a marked place. -/
def Highlight.message (h : Highlight) : String := h.problem.message

/-! ### Reports -/

/-- What one check found. -/
structure Report where
  /-- Whether nothing was recorded that makes the expression wrong. -/
  valid : Bool
  errors : List Problem
  warnings : List Problem
  highlights : List Highlight
  deriving Repr, DecidableEq

namespace Report

/-- Nothing found. -/
def empty : Report := ⟨true, [], [], []⟩

/-- The findings of one report and then those of another. -/
def append (r s : Report) : Report :=
  ⟨r.valid && s.valid, r.errors ++ s.errors, r.warnings ++ s.warnings, r.highlights ++ s.highlights⟩

instance : Append Report := ⟨append⟩

/-- The findings of many reports in order. -/
def join (rs : List Report) : Report := rs.foldr append empty

/-- The report if a condition holds, and nothing otherwise. -/
def on (condition : Bool) (r : Report) : Report := if condition then r else empty

/-- A problem that makes the expression wrong, at a range of bytes. -/
def errorAt (start stop : Nat) (p : Problem) (suggestion : Option String) : Report :=
  ⟨false, [p], [], [⟨start, stop, .error, p, suggestion⟩]⟩

/-- A problem that makes the expression wrong, at a token. -/
def errorOn (t : Token) (p : Problem) (suggestion : Option String) : Report :=
  errorAt t.start t.stop p suggestion

/-- A problem that deserves a warning, at a token. -/
def warningOn (t : Token) (p : Problem) : Report :=
  ⟨true, [], [p], [⟨t.start, t.stop, .warning, p, none⟩]⟩

@[simp] theorem valid_append (r s : Report) : (r ++ s).valid = (r.valid && s.valid) := rfl

@[simp] theorem errors_append (r s : Report) : (r ++ s).errors = r.errors ++ s.errors := rfl

@[simp] theorem warnings_append (r s : Report) : (r ++ s).warnings = r.warnings ++ s.warnings := rfl

@[simp] theorem highlights_append (r s : Report) :
    (r ++ s).highlights = r.highlights ++ s.highlights := rfl

@[simp] theorem join_nil : join [] = empty := rfl

@[simp] theorem join_cons (r : Report) (rs : List Report) : join (r :: rs) = r ++ join rs := rfl

@[simp] theorem errors_empty : empty.errors = [] := rfl

@[simp] theorem errors_join (rs : List Report) : (join rs).errors = rs.flatMap errors := by
  induction rs with
  | nil => rfl
  | cons r rs ih => rw [join_cons, errors_append, ih, List.flatMap_cons]

@[simp] theorem highlights_join (rs : List Report) :
    (join rs).highlights = rs.flatMap highlights := by
  induction rs with
  | nil => rfl
  | cons r rs ih => rw [join_cons, highlights_append, ih, List.flatMap_cons]

@[simp] theorem errors_on (condition : Bool) (r : Report) :
    (on condition r).errors = if condition then r.errors else [] := by
  cases condition <;> rfl

end Report

end FilterLang.Check
