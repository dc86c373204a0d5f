/-!
# Labels in ASCII

A label of a domain that holds characters beyond ASCII is sent in a form that does not. First come
its ASCII characters in their order, and after a hyphen, the places at which the others belong. These
are put in by ascending code point, and what is written is how far apart they are: the count of
positions to step over in all texts between, where a text is followed by the same text with the next
code point.

A distance is written in digits to base 36, the lowest first. Each digit has a threshold, and a digit
below its threshold is the last one. The thresholds follow the `bias`, which is chosen anew after each
distance, so that distances of the same size as the last one take few digits.
-/

namespace FilterLang.Url.Punycode

/-! ### Digits -/

/-- A digit as a character. -/
def digitChar (d : Nat) : Char := Char.ofNat (if d < 26 then 'a'.toNat + d else '0'.toNat + d - 26)

/-- The value of a digit. -/
def digitValue? (c : Char) : Option Nat :=
  if 'a' ≤ c && c ≤ 'z' then some (c.toNat - 'a'.toNat)
  else if 'A' ≤ c && c ≤ 'Z' then some (c.toNat - 'A'.toNat)
  else if c.isDigit then some (c.toNat - '0'.toNat + 26)
  else none

/-- A digit can be read back. -/
theorem digitValue?_digitChar {d : Nat} (h : d < 36) : digitValue? (digitChar d) = some d := by
  have all : ∀ e ∈ List.range 36, digitValue? (digitChar e) = some e := by decide
  exact all d (List.mem_range.2 h)

/-- The threshold of the digit at a position, which counts from one. -/
def threshold (position bias : Nat) : Nat := max 1 (min 26 (36 * position - bias))

theorem threshold_pos (position bias : Nat) : 0 < threshold position bias := by
  unfold threshold; omega

/-- How often a number must be divided by 35 until it is at most 455, and what is left. -/
def shrink (n : Nat) : Nat × Nat :=
  if 455 < n then
    let (times, left) := shrink (n / 35)
    (times + 1, left)
  else (0, n)
termination_by n

/-- The bias before any distance. -/
def firstBias : Nat := 72

/-- The bias after a distance, where `count` characters are in the text by then. -/
def nextBias (distance count : Nat) (isFirst : Bool) : Nat :=
  let n := distance / if isFirst then 700 else 2
  let (times, left) := shrink (n + n / count)
  36 * times + 36 * left / (left + 38)

/-! ### Writing -/

/-- The digits of a number, from the given position on. -/
def digits (bias position n : Nat) : List Char :=
  let t := threshold position bias
  if n < t then [digitChar n]
  else digitChar (t + (n - t) % (36 - t)) :: digits bias (position + 1) ((n - t) / (36 - t))
termination_by n
decreasing_by
  have := threshold_pos position bias
  have := Nat.div_le_self (n - threshold position bias) (36 - threshold position bias)
  omega

/-- What has been written, and where the next distance starts. -/
structure Writer where
  written : List Char
  distance : Nat
  bias : Nat
  count : Nat

/-- Passes a character of the label while those with the code point `n` are put in. The `basic` ones
were there from the start. -/
def Writer.pass (basic n : Nat) (w : Writer) (c : Char) : Writer :=
  if c.toNat < n then { w with distance := w.distance + 1 }
  else if c.toNat == n then
    { written := w.written ++ digits w.bias 1 w.distance
      distance := 0
      bias := nextBias w.distance (w.count + 1) (w.count == basic)
      count := w.count + 1 }
  else w

/-- Puts in the characters with the given code points, which ascend. All up to `n` are in. -/
def Writer.putAll (label : List Char) (basic : Nat) : (n : Nat) → List Nat → Writer → Writer
  | _, [], w => w
  | n, m :: ms, w =>
    let start := { w with distance := w.distance + (m - n) * (w.count + 1) }
    let w := label.foldl (Writer.pass basic m) start
    Writer.putAll label basic (m + 1) ms { w with distance := w.distance + 1 }

/-- Whether a character is in ASCII. -/
def isBasic (c : Char) : Bool := c.toNat < 0x80

/-- A label in ASCII. -/
def encode (label : List Char) : List Char :=
  let basic := label.filter isBasic
  let codes := (((label.filter fun c ↦ !isBasic c).map Char.toNat).mergeSort).eraseDups
  let start : Writer := ⟨[], 0, firstBias, basic.length⟩
  basic ++ (if basic.isEmpty then [] else ['-']) ++
    (Writer.putAll label basic.length 0x80 codes start).written

/-! ### Reading -/

/-- The greatest number that is read. -/
def maxNumber : Nat := Nat.pow 2 32 - 1

/-- Reads a number on top of `n`, where a digit at the position counts `weight` times. Returns also
the text after it. -/
def number? (bias : Nat) : (position weight n : Nat) → List Char → Option (Nat × List Char)
  | _, _, _, [] => none
  | position, weight, n, c :: cs => do
    let d ← digitValue? c
    let n := n + d * weight
    if maxNumber < n then none
    let t := threshold position bias
    if d < t then return (n, cs)
    let weight := weight * (36 - t)
    if maxNumber < weight then none
    number? bias (position + 1) weight n cs

theorem length_lt_of_number? {bias position weight n m : Nat} {cs rest : List Char}
    (h : number? bias position weight n cs = some (m, rest)) : rest.length < cs.length := by
  induction cs generalizing position weight n with
  | nil => simp [number?] at h
  | cons c cs ih =>
    simp only [number?] at h
    cases hd : digitValue? c with
    | none => simp [hd] at h
    | some d =>
      simp only [hd, Option.bind_eq_bind, Option.bind_some] at h
      split at h
      · simp at h
      · simp only [Option.pure_def] at h
        split at h
        · simp only [Option.some.injEq, Prod.mk.injEq] at h
          simp [h.2]
        · split at h
          · simp at h
          · have := ih h
            simp only [List.length_cons]
            omega

/-- Puts characters into a text. `i` is the position to count from, and `code` is the code point that
was put in last. -/
def insertAll (bias code i : Nat) (text : List Char) (cs : List Char) : Option (List Char) :=
  if cs.isEmpty then some text
  else
    match _h : number? bias 1 1 i cs with
    | none => none
    | some (j, rest) =>
      let count := text.length + 1
      let code := code + j / count
      if code.isValidChar then
        insertAll (nextBias (j - i) count (i == 0)) code (j % count + 1)
          (text.insertIdx (j % count) (Char.ofNat code)) rest
      else none
termination_by cs.length
decreasing_by exact length_lt_of_number? _h

/-- The label that is written as the given text. -/
def decode? (cs : List Char) : Option (List Char) :=
  let distances := (cs.reverse.takeWhile (· != '-')).reverse
  let basic := cs.take (cs.length - distances.length - 1)
  if basic.isEmpty then insertAll firstBias 0x80 0 [] cs
  else insertAll firstBias 0x80 0 basic distances

end FilterLang.Url.Punycode
