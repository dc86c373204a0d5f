import FilterLang.Json.Numeral
import FilterLang.Text.Bytes

/-!
# Strict JSON

The dialect of the JSON standard: four blank characters, double-quoted strings without control
characters, numerals without a plus sign or superfluous zeros, no trailing commas, and brackets
nested at most 127 deep.
-/

namespace FilterLang.Json

/-! ### Escapes -/

/-- The value of a hexadecimal digit. -/
def hexValue? (c : Char) : Option Nat :=
  if c.isDigit then some (c.toNat - 48)
  else if 'a' ≤ c && c ≤ 'f' then some (c.toNat - 87)
  else if 'A' ≤ c && c ≤ 'F' then some (c.toNat - 55)
  else none

/-- The number that hexadecimal digits denote, if all of them are digits. -/
def hexNumber? (cs : List Char) : Option Nat :=
  cs.foldlM (fun n c ↦ (hexValue? c).map (16 * n + ·)) 0

/-- Reads the four digits of a Unicode escape. The text counts as ended if fewer than four bytes are
left. -/
def hexUnit (cs : List Char) : Read Nat cs :=
  match cs with
  | a :: b :: c :: d :: rest =>
    match hexNumber? [a, b, c, d] with
    | some n => .ok (n, ⟨rest, by simp only [List.length_cons]; omega⟩)
    | none => .error .malformed
  | cs => if Text.byteLength cs < 4 then .error .unfinished else .error .malformed

/-- Whether a UTF-16 unit begins a surrogate pair. -/
def isLeading (n : Nat) : Bool := 0xD800 ≤ n && n ≤ 0xDBFF

/-- Whether a UTF-16 unit ends a surrogate pair. -/
def isTrailing (n : Nat) : Bool := 0xDC00 ≤ n && n ≤ 0xDFFF

/-- The character of a surrogate pair. -/
def ofPair (leading trailing : Nat) : Char :=
  Char.ofNat (0x10000 + (leading - 0xD800) * 0x400 + (trailing - 0xDC00))

/-- Reads the digits of a Unicode escape, and those of a second one where the first is a leading
surrogate. A surrogate without its partner is no character. -/
def unicodeEscape (cs : List Char) : Read Char cs := do
  let (n, ⟨rest, h⟩) ← hexUnit cs
  if isTrailing n then .error .malformed
  else if !isLeading n then return (Char.ofNat n, ⟨rest, h⟩)
  else
    match rest, h with
    | [], _ => .error .unfinished
    | '\\' :: [], _ => .error .unfinished
    | '\\' :: 'u' :: more, h =>
      let (n', ⟨rest', h'⟩) ← hexUnit more
      if isTrailing n' then
        return (ofPair n n', ⟨rest', by simp only [List.length_cons] at h; omega⟩)
      else .error .malformed
    | _, _ => .error .malformed

/-- The character of a one-letter escape. -/
def escaped? : Char → Option Char
  | '"' => some '"'
  | '\\' => some '\\'
  | '/' => some '/'
  | 'b' => some (Char.ofNat 8)
  | 'f' => some (Char.ofNat 12)
  | 'n' => some '\n'
  | 'r' => some '\r'
  | 't' => some '\t'
  | _ => none

namespace Strict

/-- Reads the rest of a string up to its closing quote, given the characters so far, last first. -/
def stringBody (acc : List Char) (cs : List Char) : Read String cs :=
  match cs with
  | [] => .error .unfinished
  | '"' :: rest => .ok (String.ofList acc.reverse, ⟨rest, Nat.lt_succ_self _⟩)
  | '\\' :: [] => .error .unfinished
  | '\\' :: 'u' :: rest => do
    let (c, ⟨after, h⟩) ← unicodeEscape rest
    let (s, ⟨rest', h'⟩) ← stringBody (c :: acc) after
    return (s, ⟨rest', by simp only [List.length_cons]; omega⟩)
  | '\\' :: e :: rest =>
    match escaped? e with
    | none => .error .malformed
    | some c => do
      let (s, ⟨rest', h'⟩) ← stringBody (c :: acc) rest
      return (s, ⟨rest', by simp only [List.length_cons]; omega⟩)
  | c :: rest =>
    if c.toNat < 32 then .error .malformed
    else do
      let (s, ⟨rest', h'⟩) ← stringBody (c :: acc) rest
      return (s, ⟨rest', by simp only [List.length_cons]; omega⟩)
termination_by cs.length

/-- Reads a string. -/
def string : Reader String
  | '"' :: rest => do
    let (s, ⟨rest', h⟩) ← stringBody [] rest
    return (s, ⟨rest', by simp only [List.length_cons]; omega⟩)
  | _ => .error .malformed

/-- Reads the letters of a word that has begun. -/
def word (letters : List Char) (cs : List Char) : Except ReadFault (Rest cs) :=
  match letters, cs with
  | [], cs => .ok ⟨cs, Nat.le_refl _⟩
  | _ :: _, [] => .error .unfinished
  | l :: letters, c :: cs =>
    if l == c then do
      let ⟨rest, h⟩ ← word letters cs
      return ⟨rest, Nat.le_succ_of_le h⟩
    else .error .malformed

/-- Reads the rest of a literal after its first letter. -/
def literal (letters : String) (v : Json) (first : Char) (cs : List Char) :
    Read Json (first :: cs) := do
  let ⟨rest, h⟩ ← word letters.toList cs
  return (v, ⟨rest, Nat.lt_succ_of_le h⟩)

/-- Reads a literal, a numeral or a string. -/
def scalar : Reader Json
  | [] => .error .unfinished
  | 'n' :: rest => literal "ull" .null 'n' rest
  | 't' :: rest => literal "rue" (.bool true) 't' rest
  | 'f' :: rest => literal "alse" (.bool false) 'f' rest
  | '-' :: rest => do
    let (v, ⟨rest', h⟩) ← unsignedNumeral true rest
    return (v, ⟨rest', Nat.lt_succ_of_lt h⟩)
  | '"' :: rest => do
    let (s, r) ← string ('"' :: rest)
    return (.str s, r)
  | c :: rest => if c.isDigit then unsignedNumeral false (c :: rest) else .error .malformed

/-- Whether a character may stand between tokens. -/
def isSpace (c : Char) : Bool := c == ' ' || c == '\n' || c == '\t' || c == '\r'

/-- The dialect of the standard. -/
def dialect : Dialect where
  skip cs := .ok ⟨cs.dropWhile isSpace, (List.dropWhile_suffix isSpace).length_le⟩
  scalar := scalar
  key := string
  trailingComma := false

/-- How deep brackets may nest. -/
def maxDepth : Nat := 127

end Strict

/-- Reads a text in strict JSON. -/
def read (text : String) : Except ReadFault Json := Strict.dialect.document Strict.maxDepth text

end FilterLang.Json
