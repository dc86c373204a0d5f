import FilterLang.Pattern.Class
import FilterLang.Text.Alphabetic

/-!
# Reading regular expressions

An expression is read by a machine that keeps the groups that are open. Every step takes at least
one character, so the length of the text bounds the number of steps.
-/

namespace FilterLang.Pattern

/-! ### Groups -/

/-- How a group begins. -/
inductive Opening where
  /-- A group, whether its match is kept, and directives for it. -/
  | group (keeps : Bool) (flags : List Flag)
  /-- A group with a name. -/
  | named (name : String)
  /-- Directives for the rest of the enclosing group. -/
  | directives (flags : List Flag)
  deriving Repr

/-- The letters of directives. -/
def flagLetters : List Char := ['i', 'm', 's', 'U', 'u', 'R', 'x']

/-- Reads directives up to a colon or a closing parenthesis, which is left. `seen` holds those so
far, last first, `negated` says whether a hyphen was read, and `dangling` whether it was the last
character. -/
def directives (seen : List Flag) (negated dangling : Bool) :
    List Char → Except Fault (List Flag × List Char)
  | [] => .error .flagUnfinished
  | c :: rest =>
    if c == ':' || c == ')' then
      if dangling then .error .flagDanglingNegation else .ok (seen.reverse, c :: rest)
    else if c == '-' then
      if negated then .error .flagRepeatedNegation
      else directives seen true true rest
    else if !flagLetters.contains c then .error .flagUnknown
    else if seen.any (·.letter == c) then .error .flagDuplicate
    else directives (⟨c, !negated⟩ :: seen) negated false rest

/-- Whether a character may stand in the name of a group. -/
def isNameChar (first : Bool) (c : Char) : Bool :=
  c == '_' || (if first then Text.isAlphabetic c
    else c == '.' || c == '[' || c == ']' || Text.isAlphanumeric c)

/-- Reads the name of a group up to its closing angle bracket, given the characters so far, last
first. -/
def groupName (acc : List Char) : List Char → Except Fault (String × List Char)
  | [] => .error .groupNameUnclosed
  | c :: rest =>
    if c == '>' then
      if acc.isEmpty then .error .groupNameEmpty else .ok (String.ofList acc.reverse, rest)
    else if isNameChar acc.isEmpty c then groupName (c :: acc) rest
    else .error .groupNameCharacter

/-- Whether a look-around begins after an opening parenthesis. -/
def isLookaround (cs : List Char) : Bool :=
  [['?', '='], ['?', '!'], ['?', '<', '='], ['?', '<', '!']].any (·.isPrefixOf cs)

/-- Reads the beginning of a group after its parenthesis. -/
def opening (verbose : Bool) (cs : List Char) : Except Fault (Opening × List Char) :=
  let cs := skip verbose cs
  if isLookaround cs then .error .lookaround
  else
    match cs with
    | '?' :: 'P' :: '<' :: rest => do
      let (name, after) ← groupName [] rest
      return (.named name, after)
    | '?' :: '<' :: rest => do
      let (name, after) ← groupName [] rest
      return (.named name, after)
    | '?' :: [] => .error .groupUnclosed
    | '?' :: rest => do
      match ← directives [] false false rest with
      | ([], ')' :: _) => .error .repetitionMissing
      | (flags, ')' :: after) => return (.directives flags, after)
      | (flags, _ :: after) => return (.group false flags, after)
      | (_, []) => .error .flagUnfinished
    | cs => .ok (.group true [], cs)

/-! ### Repetitions -/

/-- Whether an item can be repeated: not nothing, and not a directive. -/
def Node.isRepeatable : Node → Bool
  | .empty => false
  | .flags _ => false
  | _ => true

/-- Reads digits, which blanks may separate in verbose mode. Fuel bounds their number. -/
def countDigits (verbose : Bool) (acc : List Char) : Nat → List Char → List Char × List Char
  | 0, cs => (acc.reverse, cs)
  | _, [] => (acc.reverse, [])
  | fuel + 1, c :: cs =>
    if c.isDigit then countDigits verbose (c :: acc) fuel (skip verbose cs)
    else (acc.reverse, c :: cs)

/-- Reads a number of repetitions with blanks around it: the number or what is wrong with it, and
the text after it. -/
def count (verbose : Bool) (cs : List Char) : Except Fault Nat × List Char :=
  let (digits, after) := countDigits verbose [] cs.length (cs.dropWhile Text.isBlank)
  let after := skip verbose (after.dropWhile Text.isBlank)
  let n := digits.foldl (fun n c ↦ 10 * n + (c.toNat - 48)) 0
  if digits.isEmpty then (.error .countEmpty, after)
  else if n < Nat.pow 2 32 then (.ok n, after)
  else (.error .decimalInvalid, after)

/-- Reads the bounds of a counted repetition after its brace, up to the closing brace, which is
left. -/
def bounds (verbose : Bool) (cs : List Char) : Except Fault (Nat × Option Nat × List Char) :=
  let cs := skip verbose cs
  if cs.isEmpty then .error .countUnclosed
  else
    let (least, after) := count verbose cs
    match after with
    | [] => .error .countUnclosed
    | ',' :: rest =>
      match skip verbose rest with
      | [] => .error .countUnclosed
      | '}' :: rest' => do return (← least, none, '}' :: rest')
      | c :: rest' => do
        let least ← least
        let (most, left) := count verbose (c :: rest')
        return (least, some (← most), left)
    | _ => do
      let least ← least
      return (least, some least, after)

/-! ### The machine -/

/-- A group that is open: whether its match is kept, its directives, the alternatives and items
before it, last first, and the mode outside it. -/
structure OpenGroup where
  keeps : Bool
  flags : List Flag
  alternatives : List Node
  items : List Node
  verbose : Bool

/-- What has been read. -/
structure State where
  /-- The open groups, the innermost first. -/
  groups : List OpenGroup
  /-- The alternatives of the innermost group before the current one, last first. -/
  alternatives : List Node
  /-- The items of the current alternative, last first. -/
  items : List Node
  /-- Whether blanks and comments are skipped. -/
  verbose : Bool
  /-- The names of groups. -/
  names : List String

namespace State

/-- Nothing read. -/
def start : State := ⟨[], [], [], false, []⟩

/-- The content of the innermost group. -/
def content (s : State) : Node :=
  .ofAlternatives (Node.ofItems s.items.reverse :: s.alternatives).reverse

/-- The state with one more item. -/
def push (s : State) (n : Node) : State := { s with items := n :: s.items }

/-- The state with a group opened. -/
def openGroup (s : State) (keeps : Bool) (flags : List Flag) : State :=
  { s with
    groups := ⟨keeps, flags, s.alternatives, s.items, s.verbose⟩ :: s.groups
    alternatives := []
    items := []
    verbose := (Flag.setting 'x' flags).getD s.verbose }

/-- The state with the innermost group closed. -/
def closeGroup (s : State) : Except Fault State :=
  match s.groups with
  | [] => .error .groupUnopened
  | g :: groups =>
    .ok { s with
      groups := groups
      alternatives := g.alternatives
      items := .group g.keeps g.flags s.content :: g.items
      verbose := g.verbose }

/-- The state with its last item repeated. -/
def repeatLast (s : State) (least : Nat) (most : Option Nat) (greedy : Bool) :
    Except Fault State :=
  match s.items with
  | [] => .error .repetitionMissing
  | n :: items =>
    if n.isRepeatable then .ok { s with items := .repetition least most greedy n :: items }
    else .error .repetitionMissing

/-- Whether a repetition before the text is greedy, and the text after a question mark that makes it
lazy. -/
def greed : List Char → Bool × List Char
  | '?' :: rest => (false, rest)
  | cs => (true, cs)

/-- Reads what follows the sign of a repetition. -/
def signed (s : State) (least : Nat) (most : Option Nat) (rest : List Char) :
    Except Fault (State × List Char) := do
  let (greedy, after) := greed rest
  return (← s.repeatLast least most greedy, after)

/-- Reads a counted repetition after its brace. -/
def counted (s : State) (rest : List Char) : Except Fault (State × List Char) := do
  let _ ← s.repeatLast 0 none true
  let (least, most, after) ← bounds s.verbose rest
  match after with
  | '}' :: after =>
    let (greedy, after) := greed (skip s.verbose after)
    if most.any (· < least) then .error .countOrder
    return (← s.repeatLast least most greedy, after)
  | _ => .error .countUnclosed

/-- Reads a part of an expression that starts with `c`. -/
def step (s : State) (c : Char) (rest : List Char) : Except Fault (State × List Char) :=
  if c == '(' then do
    match ← opening s.verbose rest with
    | (.group keeps flags, after) => return (s.openGroup keeps flags, after)
    | (.named name, after) =>
      if s.names.contains name then .error .groupNameDuplicate
      return ({ s with names := name :: s.names }.openGroup true [], after)
    | (.directives flags, after) =>
      return ({ s.push (.flags flags) with
        verbose := (Flag.setting 'x' flags).getD s.verbose }, after)
  else if c == ')' then do return (← s.closeGroup, rest)
  else if c == '|' then
    .ok ({ s with
      alternatives := .ofItems s.items.reverse :: s.alternatives
      items := [] }, rest)
  else if c == '[' then do
    let (set, after) ← classAfterBracket s.verbose rest
    match set with
    | .bracketed negated set => return (s.push (.bracketed negated set), after)
    | set => return (s.push (.bracketed false set), after)
  else if c == '?' then s.signed 0 (some 1) rest
  else if c == '*' then s.signed 0 none rest
  else if c == '+' then s.signed 1 none rest
  else if c == '{' then s.counted rest
  else if c == '\\' then do
    let (e, after) ← escape s.verbose rest
    let n : Node :=
      match e with
      | .letter l => .letter l
      | .shorthand kind negated => .shorthand kind negated
      | .property p negated => .property p negated
      | .assertion a => .assertion a
    return (s.push n, after)
  else if c == '.' then .ok (s.push .dot, rest)
  else if c == '^' then .ok (s.push (.assertion .lineStart), rest)
  else if c == '$' then .ok (s.push (.assertion .lineEnd), rest)
  else .ok (s.push (.letter ⟨c, false⟩), rest)

/-- Reads the rest of an expression. Fuel bounds the number of steps. -/
def run : Nat → State → List Char → Except Fault State
  | 0, s, _ => .ok s
  | fuel + 1, s, cs =>
    match skip s.verbose cs with
    | [] => .ok s
    | c :: rest => do
      let (s, after) ← s.step c rest
      run fuel s after

end State

/-- Reads an expression. -/
def read (cs : List Char) : Except Fault Node := do
  let s ← State.run (cs.length + 1) State.start cs
  if !s.groups.isEmpty then .error .groupUnclosed
  let n := s.content
  if maxDepth < n.depth then .error .nestedTooDeeply
  return n

end FilterLang.Pattern
