import FilterLang.Url.Domain.Character
import FilterLang.Url.Domain.Replaced
import FilterLang.Url.Punycode

/-!
# Domain names

A domain name is a row of labels with full stops between them. Names go over the network in ASCII, so
that a label with other characters is sent in an ASCII form under a prefix. Such a form may also be
written in the first place, and then it is read, to see whether it is the form of a label that could
have been written out.

A label must hold assigned characters only and not begin with a mark, and the invisible joiners may
only stand where they change how letters are shown. If a character of the name runs from right to
left, then each label must run in one direction, so that names that differ look different.
-/

namespace FilterLang.Url.Domain

/-! ### Joiners -/

/-- Whether a joiner or its opposite may follow the text `before`, the last character first. Both may
stop a vowel, and the latter may part letters that would join. -/
def mayJoin (c : Char) (before after : List Char) : Bool :=
  let stops := before.head?.any fun b ↦ Unicode.combiningClass b == Unicode.viramaClass
  let joinings (cs : List Char) : Option Joining :=
    (cs.map joining).find? (· != .across)
  if c.toNat == 0x200D then stops
  else if c.toNat == 0x200C then
    stops ||
      ((joinings before).any [.after, .both].contains && (joinings after).any [.before, .both].contains)
  else true

/-- Whether all joiners of a label may stand where they are, after the text `before`. -/
def joinersFit (before : List Char) : List Char → Bool
  | [] => true
  | c :: cs => mayJoin c before cs && joinersFit (c :: before) cs

/-! ### Directions -/

/-- Whether a direction makes a name run from right to left. -/
def Direction.turnsName (d : Direction) : Bool := [.right, .arabic, .arabicNumber].contains d

/-- Whether the characters of a label run in one direction. -/
def runsOneWay (label : List Direction) : Bool :=
  let ending := (label.reverse.find? (· != .mark)).getD .neutral
  let among (ds : List Direction) (d : Direction) : Bool := ds.contains d
  let either : List Direction := [.number, .sign, .separator, .unit, .neutral, .hidden, .mark]
  match label.head? with
  | none => true
  | some .left => label.all (among (.left :: either)) && among [.left, .number] ending
  | some .right | some .arabic =>
    label.all (among (.right :: .arabic :: .arabicNumber :: either)) &&
      among [.right, .arabic, .number, .arabicNumber] ending &&
      !(label.contains .number && label.contains .arabicNumber)
  | some _ => false

/-! ### Labels -/

/-- A label with its ASCII form. -/
structure Label where
  text : List Char
  ascii : List Char
  deriving Repr, DecidableEq

/-- What the ASCII form of a label with other characters begins with. -/
def asciiPrefix : List Char := "xn--".toList

/-- The greatest length of a label that is written in ASCII. -/
def maxTextLength : Nat := 1000

/-- The greatest length of an ASCII form that is read, without its prefix. -/
def maxAsciiLength : Nat := 2000

/-- Whether a label with characters beyond ASCII may be written out. -/
def mayBeWritten (label : List Char) : Bool :=
  !asciiPrefix.isPrefixOf label && !label.head?.any isMark && label.all assigned.contains &&
    joinersFit [] label

/-- Reads a label of a name in plain form. -/
def Label.read? (cs : List Char) : Option Label :=
  if !cs.all Punycode.isBasic then
    if mayBeWritten cs && cs.length ≤ maxTextLength then
      some ⟨cs, asciiPrefix ++ Punycode.encode cs⟩
    else none
  else if asciiPrefix.isPrefixOf cs then do
    let form := cs.drop asciiPrefix.length
    if maxAsciiLength < form.length then none
    let label ← Punycode.decode? form
    if label.all Punycode.isBasic || plainForm label != label || !mayBeWritten label then none
    return ⟨label, cs⟩
  else some ⟨cs, cs⟩

/-- The ASCII form of a name. -/
def ascii? (name : List Char) : Option (List Char) := do
  let labels ← ((plainForm name).splitOn '.').mapM Label.read?
  let directions := labels.map fun label ↦ label.text.map direction
  if directions.any (·.any Direction.turnsName) && !directions.all runsOneWay then none
  return List.intercalate ['.'] (labels.map (·.ascii))

end FilterLang.Url.Domain
