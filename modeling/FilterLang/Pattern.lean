import FilterLang.Text.CodeSet

/-!
# Regular expressions

The syntax trees of regular expressions: what repeats, what is grouped, which classes and properties
are named. Whether a text is matched is never asked; it only matters whether an expression has a
meaning, and how large an automaton it needs.
-/

namespace FilterLang.Pattern

/-- A character of an expression, and whether it was written as a byte, by exactly two hexadecimal
digits. -/
structure Letter where
  char : Char
  asByte : Bool
  deriving Repr, DecidableEq

/-- A named class of characters. -/
inductive Property where
  /-- A property or a value of one of the two properties whose names may be left out. -/
  | named (name : String)
  /-- A property and its value. -/
  | valued (name value : String)
  deriving Repr, DecidableEq

/-- The classes of characters that have a letter of their own. -/
inductive Shorthand where
  | digit
  | space
  | word
  deriving Repr, DecidableEq

/-- The operators between classes. -/
inductive SetOperator where
  | intersection
  | difference
  | symmetricDifference
  deriving Repr, DecidableEq

/-- A class in brackets, or a part of one. -/
inductive ClassSet where
  | empty
  | letter (l : Letter)
  | range (first last : Letter)
  /-- A class of ASCII characters that was written by its name. -/
  | ascii (set : CodeSet) (negated : Bool)
  | shorthand (kind : Shorthand) (negated : Bool)
  | property (p : Property) (negated : Bool)
  | bracketed (negated : Bool) (set : ClassSet)
  | union (items : List ClassSet)
  | combined (op : SetOperator) (left right : ClassSet)
  deriving Repr

/-- The places of a text that the borders of its words make. -/
inductive Boundary where
  | word
  | notWord
  | wordStart
  | wordEnd
  | startHalf
  | endHalf
  deriving Repr, DecidableEq

/-- A condition on the place in a text. -/
inductive Assertion where
  | lineStart
  | lineEnd
  | textStart
  | textEnd
  | boundary (kind : Boundary)
  deriving Repr, DecidableEq

/-- A directive of a group: its letter, and whether it is switched on. -/
structure Flag where
  letter : Char
  on : Bool
  deriving Repr, DecidableEq

/-- What the last of the directives says about a letter, if one says anything. -/
def Flag.setting (letter : Char) (flags : List Flag) : Option Bool :=
  (flags.reverse.find? (·.letter == letter)).map Flag.on

/-- A regular expression. -/
inductive Node where
  | empty
  /-- Directives for the rest of the enclosing group. -/
  | flags (flags : List Flag)
  | letter (l : Letter)
  | dot
  | assertion (a : Assertion)
  | shorthand (kind : Shorthand) (negated : Bool)
  | property (p : Property) (negated : Bool)
  | bracketed (negated : Bool) (set : ClassSet)
  /-- A repetition, with no upper bound where there is none. A greedy one takes as much as it can. -/
  | repetition (least : Nat) (most : Option Nat) (greedy : Bool) (item : Node)
  /-- A group, whether its match is kept, and its directives. -/
  | group (keeps : Bool) (flags : List Flag) (item : Node)
  | concat (items : List Node)
  | alternation (items : List Node)
  deriving Repr

instance : Inhabited Node := ⟨.empty⟩

/-- Items in a row: a single item stands for itself. -/
def Node.ofItems : List Node → Node
  | [] => .empty
  | [n] => n
  | ns => .concat ns

/-- Alternatives: a single one stands for itself. -/
def Node.ofAlternatives : List Node → Node
  | [n] => n
  | ns => .alternation ns

/-- Items of a class: a single item stands for itself. -/
def ClassSet.ofItems : List ClassSet → ClassSet
  | [] => .empty
  | [s] => s
  | ss => .union ss

/-! ### How deep an expression nests -/

mutual

/-- The nesting of a class. -/
def ClassSet.depth : ClassSet → Nat
  | bracketed _ set => set.depth + 1
  | union items => depthAll items + 1
  | combined _ left right => max left.depth right.depth + 1
  | _ => 0

/-- The greatest nesting of some classes. -/
def ClassSet.depthAll : List ClassSet → Nat
  | [] => 0
  | s :: ss => max s.depth (depthAll ss)

end

mutual

/-- The nesting of an expression: repetitions, groups, classes, rows and alternatives count. -/
def Node.depth : Node → Nat
  | bracketed _ set => set.depth + 1
  | repetition _ _ _ item => item.depth + 1
  | group _ _ item => item.depth + 1
  | concat items => depthAll items + 1
  | alternation items => depthAll items + 1
  | _ => 0

/-- The greatest nesting of some expressions. -/
def Node.depthAll : List Node → Nat
  | [] => 0
  | n :: ns => max n.depth (depthAll ns)

end

/-! ### What can be wrong -/

/-- Why a text is not a regular expression. -/
inductive Fault where
  | classEscape
  | classRangeOrder
  | classRangeEnd
  | classUnclosed
  | decimalInvalid
  | hexEmpty
  | hexInvalid
  | hexDigit
  | escapeUnfinished
  | escapeUnknown
  | flagDanglingNegation
  | flagDuplicate
  | flagRepeatedNegation
  | flagUnfinished
  | flagUnknown
  | groupNameDuplicate
  | groupNameEmpty
  | groupNameCharacter
  | groupNameUnclosed
  | groupUnclosed
  | groupUnopened
  | nestedTooDeeply
  | countOrder
  | countEmpty
  | countUnclosed
  | repetitionMissing
  | boundaryUnclosed
  | boundaryUnknown
  | boundaryUnfinished
  | propertyInvalid
  | backreference
  | lookaround
  | unicodeNotAllowed
  | invalidUtf8
  | propertyUnknown
  | propertyValueUnknown
  | tooLarge
  deriving Repr, DecidableEq

/-- The greatest nesting of an expression. -/
def maxDepth : Nat := 250

/-- The greatest size of a compiled expression in bytes. -/
def maxSize : Nat := 10 * Nat.pow 2 20

/-- The words for a fault of the syntax or the meaning of an expression. -/
def Fault.reason : Fault → String
  | classEscape => "invalid escape sequence found in character class"
  | classRangeOrder => "invalid character class range, the start must be <= the end"
  | classRangeEnd => "invalid range boundary, must be a literal"
  | classUnclosed => "unclosed character class"
  | decimalInvalid => "decimal literal invalid"
  | hexEmpty => "hexadecimal literal empty"
  | hexInvalid => "hexadecimal literal is not a Unicode scalar value"
  | hexDigit => "invalid hexadecimal digit"
  | escapeUnfinished => "incomplete escape sequence, reached end of pattern prematurely"
  | escapeUnknown => "unrecognized escape sequence"
  | flagDanglingNegation => "dangling flag negation operator"
  | flagDuplicate => "duplicate flag"
  | flagRepeatedNegation => "flag negation operator repeated"
  | flagUnfinished => "expected flag but got end of regex"
  | flagUnknown => "unrecognized flag"
  | groupNameDuplicate => "duplicate capture group name"
  | groupNameEmpty => "empty capture group name"
  | groupNameCharacter => "invalid capture group character"
  | groupNameUnclosed => "unclosed capture group name"
  | groupUnclosed => "unclosed group"
  | groupUnopened => "unopened group"
  | nestedTooDeeply =>
    "exceed the maximum number of nested parentheses/brackets (" ++ toString maxDepth ++ ")"
  | countOrder => "invalid repetition count range, the start must be <= the end"
  | countEmpty => "repetition quantifier expects a valid decimal"
  | countUnclosed => "unclosed counted repetition"
  | repetitionMissing => "repetition operator missing expression"
  | boundaryUnclosed =>
    "special word boundary assertion is either unclosed or contains an invalid character"
  | boundaryUnknown =>
    "unrecognized special word boundary assertion, valid choices are: start, end, start-half or " ++
      "end-half"
  | boundaryUnfinished =>
    "found either the beginning of a special word boundary or a bounded repetition on a \\b " ++
      "with an opening brace, but no closing brace"
  | propertyInvalid => "invalid Unicode character class"
  | backreference => "backreferences are not supported"
  | lookaround => "look-around, including look-ahead and look-behind, is not supported"
  | unicodeNotAllowed => "Unicode not allowed here"
  | invalidUtf8 => "pattern can match invalid UTF-8"
  | propertyUnknown => "Unicode property not found"
  | propertyValueUnknown => "Unicode property value not found"
  | tooLarge => "Compiled regex exceeds size limit of " ++ toString maxSize ++ " bytes."

/-- The words for a fault. -/
def Fault.message : Fault → String
  | tooLarge => Fault.tooLarge.reason
  | f => "error: " ++ f.reason

end FilterLang.Pattern
