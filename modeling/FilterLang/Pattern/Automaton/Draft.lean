import FilterLang.Text.ByteChain

/-!
# Automata under construction

An automaton for a regular expression reads bytes. Its states are numbered in the order in which
they are added, and only their number and the bytes they take are kept of them. A state takes
`stateSize` bytes, with more for each byte that it tells apart or each way that it can go without
reading one.

A class of characters needs many states, and those that are alike are shared. They are looked for in
a table of a fixed number of slots, of which each remembers only the last state that fell on it, so
that a state is sometimes added again. `hash` says which slot a state falls on; as the numbers of
other states enter into it, the size of a class depends on what was built before it.
-/

namespace FilterLang.Pattern

open FilterLang.Text

/-! ### Slots -/

/-- The number that a list of numbers is scattered to, of 64 bits. -/
def hash (ns : List Nat) : UInt64 :=
  ns.foldl (fun h n ↦ (h ^^^ n.toUInt64) * 1099511628211) 14695981039346656037

/-- A table that remembers one entry in each slot. -/
structure Slots (α : Type) where
  entries : Array (Option (α × Nat))

namespace Slots

/-- A table of empty slots. -/
def empty (α : Type) (size : Nat) : Slots α := ⟨Array.replicate size none⟩

/-- The slot of a hash. -/
def index {α : Type} (s : Slots α) (h : UInt64) : Nat := h.toNat % s.entries.size

/-- The number that is remembered for a key with the given hash. -/
def find? {α : Type} [BEq α] (s : Slots α) (h : UInt64) (key : α) : Option Nat :=
  match s.entries[s.index h]? with
  | some (some (k, n)) => if k == key then some n else none
  | _ => none

/-- The table that remembers a number for a key with the given hash. -/
def insert {α : Type} (s : Slots α) (h : UInt64) (key : α) (n : Nat) : Slots α :=
  ⟨s.entries.setIfInBounds (s.index h) (some (key, n))⟩

end Slots

/-! ### Drafts -/

/-- A way from a state: the interval of bytes to read, and the state that it leads to. -/
structure Edge where
  first : Nat
  last : Nat
  target : Nat
  deriving Repr, DecidableEq

/-- An automaton under construction. -/
structure Draft where
  /-- The number of states. -/
  states : Nat
  /-- The bytes that the states take. -/
  bytes : Nat
  /-- States of classes by the ways from them. -/
  branches : Slots (List Edge)
  /-- States of classes that have one way to go, by that way. -/
  links : Slots Edge

/-- The bytes of a state. -/
def stateSize : Nat := 32

/-- The bytes of an interval that a state tells apart. -/
def edgeSize : Nat := 8

/-- The bytes of a way that a state can go without reading. -/
def wayOutSize : Nat := 4

namespace Draft

/-- An automaton without states. -/
def empty : Draft := ⟨0, 0, .empty (List Edge) 10000, .empty Edge 1000⟩

/-- The automaton with some more states, which take some bytes more than their number says. -/
def add (d : Draft) (states extra : Nat) : Draft :=
  { d with states := d.states + states, bytes := d.bytes + stateSize * states + extra }

/-- A state with the given ways from it: one that is remembered, or a new one. -/
def branch (d : Draft) (edges : List Edge) : Nat × Draft :=
  let h := hash (edges.flatMap fun e ↦ [e.first, e.last, e.target])
  match d.branches.find? h edges with
  | some n => (n, d)
  | none =>
    let next := d.add 1 (edgeSize * edges.length)
    (d.states, { next with branches := next.branches.insert h edges d.states })

/-- A state with one way from it: one that is remembered, or a new one. -/
def link (d : Draft) (e : Edge) : Nat × Draft :=
  let h := hash [e.target, e.first, e.last]
  match d.links.find? h e with
  | some n => (n, d)
  | none =>
    let next := d.add 1 0
    (d.states, { next with links := next.links.insert h e d.states })

/-! ### Classes of one byte -/

/-- Adds a class of ASCII characters: a state that tells its intervals apart and the state behind
it. -/
def addAscii (d : Draft) (intervals : Nat) : Draft := d.add 2 (edgeSize * intervals)

/-! ### Classes read forward -/

/-- A state that can still get ways from it: those that it has, last first, and the bytes that it
reads next, of which the way is still being built. -/
structure Open where
  done : List Edge
  reading : Option (Nat × Nat)

/-- The ways from a state, last first, once the way being built leads to the given state. -/
def Open.closed (o : Open) (target : Nat) : List Edge :=
  match o.reading with
  | some (first, last) => ⟨first, last, target⟩ :: o.done
  | none => o.done

/-- Closes states of which each is where the one before it leads, and returns the first of them. The
last leads to the given state. -/
def closeAll (target : Nat) : List Open → Draft → Nat × Draft
  | [], d => (target, d)
  | o :: os, d =>
    let (next, d) := closeAll target os d
    d.branch (o.closed next).reverse

/-- Adds a chain to open states. What the chain has in common with the one before it is shared, and
the states that it turns away from are closed. -/
def addChain (target : Nat) : List Open → ByteChain → Draft → List Open × Draft
  | [], chain, d => (chain.map fun r ↦ ⟨[], some r⟩, d)
  | os, [], d => (os, d)
  | o :: os, r :: chain, d =>
    if o.reading == some r then
      let (os, d) := addChain target os chain d
      (o :: os, d)
    else
      let (next, d) := closeAll target os d
      (⟨o.closed next, some r⟩ :: chain.map fun r ↦ ⟨[], some r⟩, d)

/-- Adds a class of characters that are read forward. -/
def addForward (d : Draft) (chains : List ByteChain) : Draft :=
  let target := d.states
  let (os, d) := chains.foldl (fun (os, d) chain ↦ addChain target os chain d) ([], d.add 1 0)
  (closeAll target os d).2

/-! ### Classes read backward -/

/-- Adds the states for a chain that is read from its last byte, leading to the given state. -/
def addLinks (target : Nat) : ByteChain → Draft → Draft
  | [], d => d
  | (first, last) :: chain, d =>
    let (next, d) := d.link ⟨first, last, target⟩
    addLinks next chain d

/-- Adds a class of characters that are read backward. Every chain has a state of its own to begin
with, which the first state of the class can go to. -/
def addBackward (d : Draft) (chains : List ByteChain) : Draft :=
  let target := d.states + 1
  chains.foldl (fun d chain ↦ (addLinks target chain d).add 0 wayOutSize) (d.add 2 0)

end Draft

end FilterLang.Pattern
