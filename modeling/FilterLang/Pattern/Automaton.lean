import FilterLang.Pattern.Automaton.Draft
import FilterLang.Pattern.Automaton.WordTree
import FilterLang.Pattern.Term

/-!
# How large the automata of a term are

A term is searched for with two automata: one reads the text forward and keeps the places of groups,
the other reads it backward. Each is built from pieces that follow the parts of the term, a repeated
part as often as it must or may occur, and an automaton beyond `maxSize` is refused. So what matters
is `Term.piece`, which says how the states of a term are added to a draft, and `Term.checkSize`,
which builds both automata.

A piece can end in a state with several ways to go, such as that of a repetition without an upper
bound. What follows such a piece is one more of its ways; `Piece.grows` marks them.
-/

namespace FilterLang.Pattern

/-! ### Pieces -/

/-- The draft, unless it is too large. -/
def Draft.checked (d : Draft) : Except Fault Draft :=
  if maxSize < d.bytes then .error .tooLarge else .ok d

/-- A part of an automaton. -/
structure Piece where
  /-- Adds the states of the piece. -/
  build : Draft → Except Fault Draft
  /-- Whether the last state of the piece has one more way to go for what follows. -/
  grows : Bool

namespace Piece

/-- A piece of some states that take some bytes more than their number says. -/
def states (n extra : Nat) : Piece := ⟨fun d ↦ (d.add n extra).checked, false⟩

/-- The draft after the piece has been built and something follows it. -/
def followed (p : Piece) (d : Draft) : Except Fault Draft := do
  let d ← p.build d
  return d.add 0 (if p.grows then wayOutSize else 0)

/-- Pieces in a row. No piece is a state that does nothing. -/
def row : List Piece → Piece
  | [] => states 1 0
  | [p] => p
  | p :: ps =>
    let rest := row ps
    ⟨fun d ↦ do rest.build (← p.followed d), rest.grows⟩

/-- Builds a piece a number of times, each time followed by something. -/
def copies (p : Piece) : Nat → Draft → Except Fault Draft
  | 0, d => .ok d
  | n + 1, d => do p.copies n (← p.followed d)

/-- A piece a fixed number of times. -/
def exactly (p : Piece) : Nat → Piece
  | 0 => states 1 0
  | n + 1 => ⟨fun d ↦ do p.build (← p.copies n d), p.grows⟩

/-- A piece or nothing: a fork before it and a state behind it. -/
def optional (p : Piece) : Piece :=
  ⟨fun d ↦ do (states 1 (2 * wayOutSize)).build (← p.followed (d.add 1 0)), false⟩

/-- A piece at least once: a fork behind it that leads back. -/
def atLeastOnce (p : Piece) : Piece :=
  ⟨fun d ↦ do (states 1 wayOutSize).build (← p.followed d), true⟩

/-- A piece any number of times. If it always takes a character, a fork before it is enough. If not,
it is a piece at least once, or nothing. -/
def anyNumber (takes : Bool) (p : Piece) : Piece :=
  if takes then ⟨fun d ↦ do (← p.followed (d.add 1 0)).add 0 wayOutSize |>.checked, true⟩
  else ⟨fun d ↦ do (states 3 (4 * wayOutSize)).build (← p.followed d), false⟩

/-- A piece at least a number of times. -/
def atLeast (takes : Bool) (p : Piece) : Nat → Piece
  | 0 => p.anyNumber takes
  | n + 1 => ⟨fun d ↦ do p.atLeastOnce.build (← p.copies n d), true⟩

/-- Builds a piece a number of times, each time behind a fork that leads to the end. -/
def forks (p : Piece) : Nat → Draft → Except Fault Draft
  | 0, d => .ok d
  | n + 1, d => do p.forks n (← p.followed (d.add 1 (2 * wayOutSize)))

/-- A piece between two numbers of times. -/
def between (p : Piece) (least most : Nat) : Piece :=
  ⟨fun d ↦ do p.forks (most - least) ((← (p.exactly least).followed d).add 1 0), false⟩

/-- One of some pieces: a fork in front of them, added after the second, and a state behind them. -/
def choice (ps : List Piece) : Piece :=
  match ps with
  | [] => states 1 0
  | [p] => p
  | p :: q :: ps =>
    ⟨fun d ↦ do
      let d ← q.followed (← p.followed d)
      let d ← (states 2 (2 * wayOutSize)).build d
      ps.foldlM (fun d r ↦ do (states 0 wayOutSize).build (← r.followed d)) d, false⟩

end Piece

/-! ### The pieces of a term -/

/-- The piece of a class. -/
def classPiece (backward : Bool) (set : CodeSet) : Piece :=
  if set.all fun r ↦ r.2 < 0x80 then ⟨fun d ↦ (d.addAscii set.length).checked, false⟩
  else
    let chains := Text.ByteChain.ofSet set
    if backward then ⟨fun d ↦ (d.addBackward chains).checked, false⟩
    else ⟨fun d ↦ (d.addForward chains).checked, false⟩

/-- The piece of a repetition of a piece that takes a character each time, or may take none. -/
def repetitionPiece (takes : Bool) (least : Nat) (most : Option Nat) (p : Piece) : Piece :=
  match least, most with
  | 0, some 1 => p.optional
  | least, none => p.atLeast takes least
  | least, some most => if least == most then p.exactly least else p.between least most

/-- The text of a term that is one. -/
def Term.text? : Term → Option (List Char)
  | literal text => some text
  | _ => none

mutual

/-- The piece of a term. Only an automaton that reads forward keeps the places of groups. -/
def Term.piece (backward : Bool) : Term → Piece
  | empty => .states 1 0
  | literal text => .states ((text.map Char.utf8Size).sum) 0
  | letters _ set => classPiece backward set
  | look _ => .states 1 0
  | repetition least most _ item =>
    repetitionPiece (item.minLength.any (0 < ·)) least most (item.piece backward)
  | capture item =>
    if backward then item.piece backward
    else .row [.states 1 0, item.piece backward, .states 1 0]
  | concat items =>
    let ps := pieces backward items
    .row (if backward then ps.reverse else ps)
  | alternation items =>
    match items.mapM Term.text? with
    | some texts =>
      let tree := WordTree.ofWords (texts.map fun text ↦ wordOf backward text)
      .states (tree.states + 1) tree.extra
    | none => .choice (pieces backward items)
where
  /-- The bytes of a text in the order in which they are read. -/
  wordOf (backward : Bool) (text : List Char) : List Nat :=
    let bytes := text.flatMap fun c ↦ (String.utf8EncodeChar c).map UInt8.toNat
    if backward then bytes.reverse else bytes

/-- The pieces of some terms. -/
def Term.pieces (backward : Bool) : List Term → List Piece
  | [] => []
  | t :: ts => t.piece backward :: pieces backward ts

end

/-! ### Both automata -/

/-- The states in front of an automaton: one if every match begins at the end of the text where the
automaton starts, and otherwise those that pass over any bytes. -/
def framePiece (anchored : Bool) : Piece :=
  if anchored then .states 1 0 else .states 3 (edgeSize + 2 * wayOutSize)

/-- An automaton for a term: the states in front, the term, and the state of a match. -/
def Term.automaton (backward : Bool) (t : Term) : Piece :=
  let anchored := t.demands backward (if backward then .textEnd else .textStart)
  let body := if backward then t.piece true else (capture t).piece false
  .row [framePiece anchored, body, .states 1 0]

/-- Checks that neither automaton of a term is too large. -/
def Term.checkSize (t : Term) : Except Fault Unit := do
  let _ ← (t.automaton false).build .empty
  let _ ← (t.automaton true).build .empty

end FilterLang.Pattern
