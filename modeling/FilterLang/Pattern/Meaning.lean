import FilterLang.Pattern.Property
import FilterLang.Pattern.Term
import FilterLang.Text.Blank
import FilterLang.Text.WordChar
import FilterLang.Unicode.CaseFold

/-!
# The meaning of regular expressions

An expression of the right form gets its meaning in a mode, which directives change up to the end of
their group. It can still have none: a property may be unknown, and where Unicode is switched off,
bytes take the place of characters, so that whatever could match a part of a character is refused.

A class becomes the set of its characters. Where upper and lower case are the same, every set is
closed under the change of case before a complement is taken, so that the complement holds no
variant of what it leaves out.
-/

namespace FilterLang.Pattern

/-- The directives that are in effect. -/
structure Mode where
  /-- Whether upper and lower case are the same. -/
  folds : Bool
  /-- Whether the ends of a line are found within a text. -/
  multiline : Bool
  /-- Whether the dot matches line feeds. -/
  dotAll : Bool
  /-- Whether repetitions are lazy, and greedy with a question mark. -/
  swapsGreed : Bool
  unicode : Bool
  /-- Whether a carriage return belongs to the end of a line. -/
  crlf : Bool
  deriving Repr, DecidableEq

/-- The mode at the start of an expression. -/
def Mode.start (caseSensitive : Bool) : Mode :=
  ⟨!caseSensitive, false, false, false, true, false⟩

/-- The mode after some directives. -/
def Mode.after (m : Mode) (fs : List Flag) : Mode :=
  ⟨(Flag.setting 'i' fs).getD m.folds, (Flag.setting 'm' fs).getD m.multiline,
    (Flag.setting 's' fs).getD m.dotAll, (Flag.setting 'U' fs).getD m.swapsGreed,
    (Flag.setting 'u' fs).getD m.unicode, (Flag.setting 'R' fs).getD m.crlf⟩

/-! ### Characters -/

/-- Checks an ordinary character. Where Unicode is off, a byte must be an ASCII character. -/
def Letter.check (unicode : Bool) (l : Letter) : Except Fault Unit :=
  if !unicode && l.asByte && 128 ≤ l.char.toNat then .error .invalidUtf8 else .ok ()

/-- The code point of a character of a class. Where Unicode is off, it must be an ASCII
character. -/
def Letter.codePoint (unicode : Bool) (l : Letter) : Except Fault Nat := do
  l.check unicode
  if !unicode && 128 ≤ l.char.toNat then .error .unicodeNotAllowed
  return l.char.toNat

/-- The set with the variants in case of its characters, where case does not matter. -/
def Mode.fold (m : Mode) (s : CodeSet) : CodeSet :=
  if !m.folds then s
  else if m.unicode then Unicode.caseClosure s
  else Unicode.asciiCaseClosure s

/-- The set or its complement, which is only taken where Unicode is on. -/
def Mode.negate (m : Mode) (negated : Bool) (s : CodeSet) : Except Fault CodeSet :=
  if !negated then .ok s else if m.unicode then .ok s.complement else .error .invalidUtf8

/-- A character. One with variants in case is the class of them, where case does not matter. -/
def Letter.term (m : Mode) (l : Letter) : Except Fault Term := do
  l.check m.unicode
  let c := l.char.toNat
  if m.folds && (m.unicode || c < 128) then
    let set := m.fold [(c, c)]
    if set == [(c, c)] then return .literal [l.char]
    return .letters (!m.unicode) set
  else return .literal [l.char]

/-! ### Classes -/

/-- The ASCII characters of a class with a letter of its own. -/
def Shorthand.asciiSet : Shorthand → CodeSet
  | digit => [(0x30, 0x39)]
  | space => [(0x09, 0x0D), (0x20, 0x20)]
  | word => [(0x30, 0x39), (0x41, 0x5A), (0x5F, 0x5F), (0x61, 0x7A)]

/-- The characters of a class with a letter of its own. -/
def Shorthand.unicodeSet : Shorthand → CodeSet
  | digit => Unicode.category "nd"
  | space => Text.blankRanges
  | word => asciiSet word ++ Text.wordRanges

/-- The set of a class with a letter of its own. It is closed under the change of case. -/
def Shorthand.set (m : Mode) (kind : Shorthand) (negated : Bool) : Except Fault CodeSet :=
  m.negate negated (if m.unicode then kind.unicodeSet else kind.asciiSet)

/-- The set of a property, which needs Unicode. -/
def Property.setIn (m : Mode) (p : Property) (negated : Bool) : Except Fault CodeSet := do
  if !m.unicode then .error .unicodeNotAllowed
  m.negate negated (m.fold (← p.set))

/-- The set that an operator makes of two. -/
def SetOperator.apply : SetOperator → CodeSet → CodeSet → CodeSet
  | intersection => CodeSet.inter
  | difference => CodeSet.diff
  | symmetricDifference => CodeSet.symmDiff

mutual

/-- The set of a class. -/
def ClassSet.set (m : Mode) : ClassSet → Except Fault CodeSet
  | empty => .ok []
  | letter l => do
    let c ← l.codePoint m.unicode
    return [(c, c)]
  | range first last => do return [(← first.codePoint m.unicode, ← last.codePoint m.unicode)]
  | ascii set negated => m.negate negated (m.fold set)
  | shorthand kind negated => kind.set m negated
  | property p negated => p.setIn m negated
  | bracketed negated set => do m.negate negated (m.fold (← set.set m))
  | union items => do return CodeSet.canonical (← setOfAll m items)
  | combined op left right => do
    let s ← left.set m
    let t ← right.set m
    return op.apply (m.fold s) (m.fold t)

/-- The sets of the items of a class in order. -/
def ClassSet.setOfAll (m : Mode) : List ClassSet → Except Fault CodeSet
  | [] => .ok []
  | s :: ss => do return (← s.set m) ++ (← setOfAll m ss)

end

/-! ### Expressions -/

/-- The characters that a dot matches. -/
def Mode.dotSet (m : Mode) : CodeSet :=
  if m.dotAll then [(0, CodeSet.maxCode)]
  else if m.crlf then [(0, 0x09), (0x0B, 0x0C), (0x0E, CodeSet.maxCode)]
  else [(0, 0x09), (0x0B, CodeSet.maxCode)]

/-- An assertion in a mode. -/
def Assertion.look (m : Mode) : Assertion → Look
  | lineStart => if m.multiline then .lineStart m.crlf else .textStart
  | lineEnd => if m.multiline then .lineEnd m.crlf else .textEnd
  | textStart => .textStart
  | textEnd => .textEnd
  | boundary kind => .boundary kind m.unicode

mutual

/-- The meaning of an expression, and the mode after it. -/
def Node.meaning (m : Mode) : Node → Except Fault (Term × Mode)
  | empty => .ok (.empty, m)
  | flags fs => .ok (.empty, m.after fs)
  | letter l => do return (← l.term m, m)
  | dot =>
    if m.unicode then .ok (.ofSet false m.dotSet, m) else .error .invalidUtf8
  | assertion a => .ok (.look (a.look m), m)
  | shorthand kind negated => do return (.ofSet (!m.unicode) (← kind.set m negated), m)
  | property p negated => do return (.ofSet false (← p.setIn m negated), m)
  | bracketed negated set => do
    return (.ofSet (!m.unicode) (← m.negate negated (m.fold (← set.set m))), m)
  | repetition least most greedy item => do
    let (t, after) ← item.meaning m
    return (.ofRepetition least most (greedy != m.swapsGreed) t, after)
  | group keeps fs item => do
    let (t, _) ← item.meaning (m.after fs)
    return (if keeps then .capture t else t, m)
  | concat items => do
    let (ts, after) ← meaningAll m items
    return (.ofRow ts, after)
  | alternation items => do
    let (ts, after) ← meaningAll m items
    return (.ofChoices ts, after)

/-- The meanings of the parts of an expression in order, and the mode after them. -/
def Node.meaningAll (m : Mode) : List Node → Except Fault (List Term × Mode)
  | [] => .ok ([], m)
  | n :: ns => do
    let (t, after) ← n.meaning m
    let (ts, last) ← meaningAll after ns
    return (t :: ts, last)

end

end FilterLang.Pattern
