import FilterLang.Pattern
import FilterLang.Text.Blank

/-!
# Escapes in regular expressions

A backslash makes a special character ordinary, or begins a numeral, a class, a property or an
assertion. In the verbose mode of a group, blanks and comments between the parts of an expression
have no meaning; `skip` passes over them, in that mode only.
-/

namespace FilterLang.Pattern

/-- The text after the end of a line. -/
def afterLine (cs : List Char) : List Char := (cs.dropWhile (· != '\n')).drop 1

/-- The text without the blanks and comments at its start. Fuel bounds their number. -/
def skipWithin : Nat → List Char → List Char
  | 0, cs => cs
  | _, [] => []
  | fuel + 1, c :: cs =>
    if Text.isBlank c then skipWithin fuel cs
    else if c == '#' then skipWithin fuel (afterLine cs)
    else c :: cs

/-- The text without the blanks and comments at its start, in verbose mode. -/
def skip (verbose : Bool) (cs : List Char) : List Char :=
  if verbose then skipWithin cs.length cs else cs

/-- The value of a hexadecimal digit. -/
def hexValue? (c : Char) : Option Nat :=
  if c.isDigit then some (c.toNat - 48)
  else if 'a' ≤ c && c ≤ 'f' then some (c.toNat - 87)
  else if 'A' ≤ c && c ≤ 'F' then some (c.toNat - 55)
  else none

/-- The character with the code point that hexadecimal digits denote. -/
def charOfHex? (ds : List Char) : Except Fault Char :=
  let n := ds.foldl (fun n c ↦ 16 * n + (hexValue? c).getD 0) 0
  if n.isValidChar then .ok (Char.ofNat n) else .error .hexInvalid

/-- Reads hexadecimal digits up to a closing brace, given those so far, last first. Fuel bounds
their number. -/
def bracedHex (verbose : Bool) (acc : List Char) : Nat → List Char →
    Except Fault (List Char × List Char)
  | 0, _ => .error .escapeUnfinished
  | fuel + 1, cs =>
    match skip verbose cs with
    | [] => .error .escapeUnfinished
    | '}' :: rest => .ok (acc.reverse, rest)
    | c :: rest =>
      if (hexValue? c).isSome then bracedHex verbose (c :: acc) fuel rest else .error .hexDigit

/-- Reads the given number of hexadecimal digits. -/
def fixedHex (verbose : Bool) : Nat → List Char → Except Fault (List Char × List Char)
  | 0, cs => .ok ([], cs)
  | n + 1, cs =>
    match skip verbose cs with
    | [] => .error .escapeUnfinished
    | c :: rest =>
      if (hexValue? c).isSome then do
        let (ds, after) ← fixedHex verbose n rest
        return (c :: ds, after)
      else .error .hexDigit

/-- Reads a numeral after `\x`, `\u` or `\U`. -/
def hexEscape (verbose : Bool) (digits : Nat) (cs : List Char) :
    Except Fault (Letter × List Char) :=
  match skip verbose cs with
  | [] => .error .escapeUnfinished
  | '{' :: rest => do
    let (ds, after) ← bracedHex verbose [] (rest.length + 1) rest
    if ds.isEmpty then .error .hexEmpty
    return (⟨← charOfHex? ds, false⟩, skip verbose after)
  | cs => do
    let (ds, after) ← fixedHex verbose digits cs
    return (⟨← charOfHex? ds, digits == 2⟩, skip verbose after)

/-- Reads a name up to a closing brace, given the characters so far, last first. Fuel bounds their
number. -/
def bracedName (verbose : Bool) (acc : List Char) : Nat → List Char →
    Except Fault (List Char × List Char)
  | 0, _ => .error .escapeUnfinished
  | fuel + 1, cs =>
    match skip verbose cs with
    | [] => .error .escapeUnfinished
    | '}' :: rest => .ok (acc.reverse, rest)
    | c :: rest => bracedName verbose (c :: acc) fuel rest

/-- Splits a text around the first place where a separator stands. -/
def splitAround (separator : List Char) : List Char → Option (List Char × List Char)
  | [] => none
  | c :: cs =>
    if separator.isPrefixOf (c :: cs) then some ([], (c :: cs).drop separator.length)
    else (splitAround separator cs).map fun (before, after) ↦ (c :: before, after)

/-- The property with the given name in braces. A name may be followed by a value after `!=`, `:` or
`=`, tried in this order. -/
def Property.ofName (cs : List Char) : Property :=
  let split := [['!', '='], [':'], ['=']].findSome? (splitAround · cs)
  match split with
  | some (name, value) => .valued (String.ofList name) (String.ofList value)
  | none => .named (String.ofList cs)

/-- Reads the name of a property after `\p` or `\P`. -/
def propertyEscape (verbose : Bool) (cs : List Char) : Except Fault (Property × List Char) :=
  match skip verbose cs with
  | [] => .error .escapeUnfinished
  | '{' :: rest => do
    let (name, after) ← bracedName verbose [] (rest.length + 1) rest
    return (.ofName name, after)
  | '\\' :: _ => .error .propertyInvalid
  | c :: rest => .ok (.named (String.singleton c), skip verbose rest)

/-- The boundaries whose names stand in braces after `\b`. -/
def namedBoundaries : List (String × Boundary) :=
  [("start", .wordStart), ("end", .wordEnd), ("start-half", .startHalf), ("end-half", .endHalf)]

/-- Reads letters and hyphens. Fuel bounds their number. -/
def boundaryName (verbose : Bool) (acc : List Char) : Nat → List Char → List Char × List Char
  | 0, cs => (acc.reverse, cs)
  | _, [] => (acc.reverse, [])
  | fuel + 1, c :: cs =>
    if c.isAlpha || c == '-' then boundaryName verbose (c :: acc) fuel (skip verbose cs)
    else (acc.reverse, c :: cs)

/-- Reads what follows `\b`: the name of a boundary in braces, unless the brace begins a counted
repetition. -/
def boundary (verbose : Bool) (cs : List Char) : Except Fault (Boundary × List Char) :=
  match cs with
  | '{' :: rest =>
    match skip verbose rest with
    | [] => .error .boundaryUnfinished
    | c :: rest' =>
      if c.isAlpha || c == '-' then
        match boundaryName verbose [] (rest'.length + 1) (c :: rest') with
        | (name, '}' :: after) =>
          match namedBoundaries.lookup (String.ofList name) with
          | some b => .ok (b, after)
          | none => .error .boundaryUnknown
        | _ => .error .boundaryUnclosed
      else .ok (.word, cs)
  | cs => .ok (.word, cs)

/-- The characters with a special meaning. -/
def metaCharacters : List Char :=
  ['\\', '.', '+', '*', '?', '(', ')', '|', '[', ']', '{', '}', '^', '$', '#', '&', '-', '~']

/-- Whether a backslash may stand before the character without a meaning: special characters, and
the ASCII characters that are neither letters nor digits nor angle brackets. -/
def isEscapable (c : Char) : Bool :=
  metaCharacters.contains c ||
    (c.toNat < 128 && !c.isAlphanum && c != '<' && c != '>')

/-- The characters that letters stand for after a backslash. -/
def escapedLetters : List (Char × Char) :=
  [('a', Char.ofNat 7), ('f', Char.ofNat 12), ('t', '\t'), ('n', '\n'), ('r', '\r'),
    ('v', Char.ofNat 11)]

/-- The classes that letters stand for after a backslash. A capital stands for the complement. -/
def shorthands : List (Char × Shorthand × Bool) :=
  [('d', .digit, false), ('D', .digit, true), ('s', .space, false), ('S', .space, true),
    ('w', .word, false), ('W', .word, true)]

/-- The assertions that letters and angle brackets stand for after a backslash. -/
def escapedAssertions : List (Char × Assertion) :=
  [('A', .textStart), ('z', .textEnd), ('B', .boundary .notWord), ('<', .boundary .wordStart),
    ('>', .boundary .wordEnd)]

/-- What an escape stands for. -/
inductive Escape where
  | letter (l : Letter)
  | shorthand (kind : Shorthand) (negated : Bool)
  | property (p : Property) (negated : Bool)
  | assertion (a : Assertion)
  deriving Repr

/-- Reads an escape after its backslash. -/
def escape (verbose : Bool) (cs : List Char) : Except Fault (Escape × List Char) :=
  match cs with
  | [] => .error .escapeUnfinished
  | c :: rest =>
    if c.isDigit then .error .backreference
    else if c == 'x' || c == 'u' || c == 'U' then do
      let digits := if c == 'x' then 2 else if c == 'u' then 4 else 8
      let (l, after) ← hexEscape verbose digits rest
      return (.letter l, after)
    else if c == 'p' || c == 'P' then do
      let (p, after) ← propertyEscape verbose rest
      return (.property p (c == 'P'), after)
    else if isEscapable c then .ok (.letter ⟨c, false⟩, rest)
    else
      match shorthands.lookup c, escapedLetters.lookup c with
      | some (kind, negated), _ => .ok (.shorthand kind negated, rest)
      | none, some d => .ok (.letter ⟨d, false⟩, rest)
      | none, none =>
        if c == 'b' then do
          let (b, after) ← boundary verbose rest
          return (.assertion (.boundary b), after)
        else
          match escapedAssertions.lookup c with
          | some a => .ok (.assertion a, rest)
          | none => .error .escapeUnknown

end FilterLang.Pattern
