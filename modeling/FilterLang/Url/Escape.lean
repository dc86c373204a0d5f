import FilterLang.Url.Scheme

/-!
# Escapes

A character that cannot stand in some part of an address is written as the bytes of its UTF-8 form,
each as a percent sign with two hexadecimal digits. Which characters these are depends on the part:
control characters and those beyond ASCII are escaped in all of them.
-/

namespace FilterLang.Url

/-! ### Digits -/

/-- The value of a digit, where digits go up to the given base. -/
def digit? (base : Nat) (c : Char) : Option Nat :=
  let v :=
    if c.isDigit then c.toNat - '0'.toNat
    else if 'a' ≤ c && c ≤ 'f' then c.toNat - 'a'.toNat + 10
    else if 'A' ≤ c && c ≤ 'F' then c.toNat - 'A'.toNat + 10
    else base
  if v < base then some v else none

/-- The number of some digits, of which there may be none. -/
def number? (base : Nat) (cs : List Char) : Option Nat := do
  return (← cs.mapM (digit? base)).foldl (fun n d ↦ base * n + d) 0

/-- A number below sixteen as a digit. -/
def hexDigit (n : Nat) : Char :=
  Char.ofNat (if n < 10 then '0'.toNat + n else 'A'.toNat + n - 10)

/-! ### Writing -/

/-- The bytes of a character. -/
def bytesOf (c : Char) : List UInt8 := (String.singleton c).toUTF8.toList

/-- The escape of a byte. -/
def escapeByte (b : UInt8) : List Char := ['%', hexDigit (b.toNat / 16), hexDigit (b.toNat % 16)]

/-- A text in which control characters, characters beyond ASCII and some others are escaped. -/
def escape (others : List Char) (cs : List Char) : List Char :=
  cs.flatMap fun c ↦
    if c.toNat < 0x20 || 0x7F ≤ c.toNat || others.contains c then (bytesOf c).flatMap escapeByte
    else [c]

/-- The characters that are escaped in a fragment. -/
def fragmentEscapes : List Char := [' ', '"', '<', '>', '`']

/-- The characters that are escaped in a path. -/
def pathEscapes : List Char := fragmentEscapes ++ ['#', '?', '\x7b', '\x7d']

/-- The characters that are escaped in a name and in a password. -/
def credentialEscapes : List Char :=
  pathEscapes ++ ['/', ':', ';', '=', '@', '[', '\\', ']', '^', '|']

/-- The characters that are escaped in a query. -/
def queryEscapes (k : Kind) : List Char :=
  [' ', '"', '#', '<', '>'] ++ if k.isSpecial then ['\''] else []

/-! ### Reading -/

/-- The bytes that a text with escapes stands for. -/
def unescape : List Char → List UInt8
  | [] => []
  | '%' :: a :: b :: rest =>
    match digit? 16 a, digit? 16 b with
    | some x, some y => UInt8.ofNat (16 * x + y) :: unescape rest
    | _, _ => bytesOf '%' ++ unescape (a :: b :: rest)
  | c :: rest => bytesOf c ++ unescape rest

/-- The text that a text with escapes stands for, if its bytes make one. -/
def unescaped? (cs : List Char) : Option (List Char) :=
  (String.fromUTF8? (unescape cs).toByteArray).map String.toList

end FilterLang.Url
