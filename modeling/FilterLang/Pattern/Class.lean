import FilterLang.Pattern.Escape

/-!
# Classes in brackets

A class is read by a machine that keeps the brackets that are open and, within each, the operator
whose right side is being read. Operators associate to the left.
-/

namespace FilterLang.Pattern

/-- The classes of ASCII characters, with their names. -/
def asciiClasses : List (String × CodeSet) := [
  ("alnum", [(0x30, 0x39), (0x41, 0x5A), (0x61, 0x7A)]),
  ("alpha", [(0x41, 0x5A), (0x61, 0x7A)]),
  ("ascii", [(0x00, 0x7F)]),
  ("blank", [(0x09, 0x09), (0x20, 0x20)]),
  ("cntrl", [(0x00, 0x1F), (0x7F, 0x7F)]),
  ("digit", [(0x30, 0x39)]),
  ("graph", [(0x21, 0x7E)]),
  ("lower", [(0x61, 0x7A)]),
  ("print", [(0x20, 0x7E)]),
  ("punct", [(0x21, 0x2F), (0x3A, 0x40), (0x5B, 0x60), (0x7B, 0x7E)]),
  ("space", [(0x09, 0x0D), (0x20, 0x20)]),
  ("upper", [(0x41, 0x5A)]),
  ("word", [(0x30, 0x39), (0x41, 0x5A), (0x5F, 0x5F), (0x61, 0x7A)]),
  ("xdigit", [(0x30, 0x39), (0x41, 0x46), (0x61, 0x66)])]

/-- Reads a class of ASCII characters such as `[:alpha:]`, if one stands at the front: the class as
an item, and the text after it. -/
def asciiClass? (cs : List Char) : Option (ClassSet × List Char) :=
  match cs with
  | '[' :: ':' :: rest =>
    let (negated, rest) :=
      match rest with
      | '^' :: after => (true, after)
      | rest => (false, rest)
    let name := String.ofList (rest.takeWhile (· != ':'))
    match rest.dropWhile (· != ':') with
    | ':' :: ']' :: after => (asciiClasses.lookup name).map fun set ↦ (.ascii set negated, after)
    | _ => none
  | _ => none

/-- A bracket that is open: the items before it, whether it is negated, and an operator within it
with its left side. -/
structure OpenClass where
  outer : List ClassSet
  negated : Bool
  left : Option (SetOperator × ClassSet)

/-- The content of a bracket so far, given its last items, last first. -/
def OpenClass.content (o : OpenClass) (items : List ClassSet) : ClassSet :=
  let right := ClassSet.ofItems items.reverse
  match o.left with
  | some (op, left) => .combined op left right
  | none => right

/-- The class of a bracket, given its last items, last first. -/
def OpenClass.close (o : OpenClass) (items : List ClassSet) : ClassSet :=
  .bracketed o.negated (o.content items)

/-- The bracket with an operator after its last items. -/
def OpenClass.combine (o : OpenClass) (op : SetOperator) (items : List ClassSet) : OpenClass :=
  { o with left := some (op, o.content items) }

/-- Reads hyphens at the start of a class, as ordinary characters. Fuel bounds their number. -/
def leadingHyphens (verbose : Bool) (acc : List ClassSet) : Nat → List Char →
    Except Fault (List ClassSet × List Char)
  | 0, _ => .error .classUnclosed
  | fuel + 1, cs =>
    match cs with
    | [] => .error .classUnclosed
    | '-' :: rest =>
      leadingHyphens verbose (.letter ⟨'-', false⟩ :: acc) fuel (skip verbose rest)
    | cs => .ok (acc, cs)

/-- Reads the start of a class after its bracket: a negation, hyphens, and a closing bracket that
stands for itself since it would leave the class empty. -/
def classStart (verbose : Bool) (cs : List Char) :
    Except Fault (Bool × List ClassSet × List Char) := do
  let (negated, cs) :=
    match skip verbose cs with
    | '^' :: rest => (true, skip verbose rest)
    | cs => (false, cs)
  let (items, cs) ← leadingHyphens verbose [] (cs.length + 1) cs
  match items, cs with
  | [], ']' :: rest =>
    let rest := skip verbose rest
    if rest.isEmpty then .error .classUnclosed
    return (negated, [.letter ⟨']', false⟩], rest)
  | items, cs => return (negated, items, cs)

/-- Reads one character or escape of a class. -/
def classItem (verbose : Bool) (c : Char) (rest : List Char) : Except Fault (Escape × List Char) :=
  if c == '\\' then escape verbose rest else .ok (.letter ⟨c, false⟩, rest)

/-- An escape as an item of a class. Assertions are none. -/
def Escape.toItem : Escape → Except Fault ClassSet
  | letter l => .ok (.letter l)
  | shorthand kind negated => .ok (.shorthand kind negated)
  | property p negated => .ok (.property p negated)
  | assertion _ => .error .classEscape

/-- An escape as an end of a range. -/
def Escape.toEnd : Escape → Except Fault Letter
  | letter l => .ok l
  | _ => .error .classRangeEnd

/-- The first character after blanks. In a comment, that may be one of the comment. -/
def peekWithin (inComment : Bool) : List Char → Option Char
  | [] => none
  | c :: cs =>
    if Text.isBlank c then peekWithin inComment cs
    else if c == '#' && !inComment then peekWithin true cs
    else some c

/-- The character that decides whether a hyphen before it makes a range. In verbose mode this is the
next one that is no blank, or the very next one where there is none. -/
def peek (verbose : Bool) (cs : List Char) : Option Char :=
  if verbose then (peekWithin false cs).or cs.head? else cs.head?

/-- Reads an item of a class that starts with `c`: a character, an escape or a range. A hyphen
before a closing bracket or another hyphen makes no range. -/
def classRange (verbose : Bool) (c : Char) (rest : List Char) :
    Except Fault (ClassSet × List Char) := do
  let (first, after) ← classItem verbose c rest
  let after := skip verbose after
  match after with
  | [] => .error .classUnclosed
  | '-' :: beyond =>
    match peek verbose beyond with
    | some ']' => return (← first.toItem, after)
    | some '-' => return (← first.toItem, after)
    | _ =>
      match skip verbose beyond with
      | [] => .error .classUnclosed
      | d :: rest' =>
        let (last, left) ← classItem verbose d rest'
        let a ← first.toEnd
        let b ← last.toEnd
        if b.char < a.char then .error .classRangeOrder
        return (.range a b, left)
  | _ => return (← first.toItem, after)

/-- Reads the rest of a class, given its open brackets, the innermost first, and the items of the
innermost, last first. Fuel bounds the number of items. -/
def classRest (verbose : Bool) (opened : OpenClass) (outer : List OpenClass)
    (items : List ClassSet) : Nat → List Char → Except Fault (ClassSet × List Char)
  | 0, _ => .error .classUnclosed
  | fuel + 1, cs =>
    match skip verbose cs with
    | [] => .error .classUnclosed
    | '[' :: rest =>
      match asciiClass? ('[' :: rest) with
      | some (item, after) => classRest verbose opened outer (item :: items) fuel after
      | none => do
        let (negated, inner, after) ← classStart verbose rest
        classRest verbose ⟨items, negated, none⟩ (opened :: outer) inner fuel after
    | ']' :: rest =>
      let set := opened.close items
      match outer with
      | [] => .ok (set, rest)
      | o :: outer => classRest verbose o outer (set :: opened.outer) fuel rest
    | '&' :: '&' :: rest =>
      classRest verbose (opened.combine .intersection items) outer [] fuel rest
    | '-' :: '-' :: rest =>
      classRest verbose (opened.combine .difference items) outer [] fuel rest
    | '~' :: '~' :: rest =>
      classRest verbose (opened.combine .symmetricDifference items) outer [] fuel rest
    | c :: rest => do
      let (item, after) ← classRange verbose c rest
      classRest verbose opened outer (item :: items) fuel after

/-- Reads a class after its opening bracket: whether it is negated, and its content. -/
def classAfterBracket (verbose : Bool) (cs : List Char) :
    Except Fault (ClassSet × List Char) := do
  let (negated, items, rest) ← classStart verbose cs
  classRest verbose ⟨[], negated, none⟩ [] items (rest.length + 1) rest

end FilterLang.Pattern
