import FilterLang.Text.Bytes

/-!
# Strings of TOML

Four kinds of strings: with escapes in double quotes and without in single quotes, each on one line
or, between three quotes, over several. A line feed directly after three opening quotes is dropped,
and a carriage return with its line feed counts as a line feed.

A reader takes the text after what it was chosen by, and returns what it read with the text that is
left, or nothing where the text is malformed.
-/

namespace FilterLang.Toml

/-- Whether a character may stand in a comment or unescaped in a string. -/
def isPlain (c : Char) : Bool := c == '\t' || (0x20 ≤ c.toNat && c.toNat != 0x7F)

/-- Whether a character is a blank within a line. -/
def isSpace (c : Char) : Bool := c == ' ' || c == '\t'

/-- The text after a line feed, with or without a carriage return before it. -/
def afterNewline? : List Char → Option (List Char)
  | '\n' :: rest => some rest
  | '\r' :: '\n' :: rest => some rest
  | _ => none

/-! ### Escapes -/

/-- The value of a hexadecimal digit. -/
def hexValue? (c : Char) : Option Nat :=
  if c.isDigit then some (c.toNat - '0'.toNat)
  else if 'a' ≤ c && c ≤ 'f' then some (c.toNat - 'a'.toNat + 10)
  else if 'A' ≤ c && c ≤ 'F' then some (c.toNat - 'A'.toNat + 10)
  else none

/-- Reads a code point of exactly `n` hexadecimal digits. -/
def codePoint (n : Nat) (cs : List Char) : Option (Char × List Char) := do
  if cs.length < n then none
  let digits ← (cs.take n).mapM hexValue?
  let v := digits.foldl (fun v d ↦ 16 * v + d) 0
  if h : v.isValidChar then return (Char.ofNatAux v h, cs.drop n) else none

/-- Reads an escape after its backslash. -/
def escape : List Char → Option (Char × List Char)
  | 'b' :: rest => some ('\x08', rest)
  | 't' :: rest => some ('\t', rest)
  | 'n' :: rest => some ('\n', rest)
  | 'f' :: rest => some ('\x0c', rest)
  | 'r' :: rest => some ('\r', rest)
  | '"' :: rest => some ('"', rest)
  | '\\' :: rest => some ('\\', rest)
  | 'u' :: rest => codePoint 4 rest
  | 'U' :: rest => codePoint 8 rest
  | _ => none

/-! ### Strings on one line -/

/-- Reads the rest of a string with escapes. Fuel bounds the number of characters. -/
def basic : Nat → List Char → Option (List Char × List Char)
  | 0, _ => none
  | _ + 1, [] => none
  | fuel + 1, c :: rest =>
    if c == '"' then some ([], rest)
    else if c == '\\' then do
      let (e, rest) ← escape rest
      let (s, rest) ← basic fuel rest
      return (e :: s, rest)
    else if isPlain c then do
      let (s, rest) ← basic fuel rest
      return (c :: s, rest)
    else none

/-- Reads the rest of a string without escapes. -/
def literal : List Char → Option (List Char × List Char)
  | [] => none
  | c :: rest =>
    if c == '\'' then some ([], rest)
    else if isPlain c then (literal rest).map fun (s, rest) ↦ (c :: s, rest)
    else none

/-! ### Strings over several lines -/

/-- What a run of quotes means inside a string that three of them close: how many belong to the
string, and whether it ends. Two more than three may belong to it. -/
def quoteRun (n : Nat) : Nat × Bool := if n < 3 then (n, false) else (min (n - 3) 2, true)

/-- The text after blanks and line feeds. -/
def skipBlankLines : List Char → List Char
  | '\n' :: rest => skipBlankLines rest
  | '\r' :: '\n' :: rest => skipBlankLines rest
  | c :: rest => if isSpace c then skipBlankLines rest else c :: rest
  | [] => []

/-- The text after an escaped line feed and all blank text behind it, if there is one. -/
def afterContinuation? (rest : List Char) : Option (List Char) :=
  (afterNewline? (rest.dropWhile isSpace)).map skipBlankLines

/-- Reads the rest of a string that three of the given quotes close, with or without escapes. Fuel
bounds the number of characters. -/
def multiline (quote : Char) (escapes : Bool) : Nat → List Char → Option (List Char × List Char)
  | 0, _ => none
  | _ + 1, [] => none
  | fuel + 1, c :: rest =>
    if c == quote then
      let (kept, ends) := quoteRun ((rest.takeWhile (· == quote)).length + 1)
      if ends then some (List.replicate kept quote, rest.drop (kept + 2))
      else do
        let (s, rest) ← multiline quote escapes fuel (rest.drop (kept - 1))
        return (List.replicate kept quote ++ s, rest)
    else if escapes && c == '\\' then
      match afterContinuation? rest with
      | some rest => multiline quote escapes fuel rest
      | none => do
        let (e, rest) ← escape rest
        let (s, rest) ← multiline quote escapes fuel rest
        return (e :: s, rest)
    else
      match afterNewline? (c :: rest) with
      | some rest => do
        let (s, rest) ← multiline quote escapes fuel rest
        return ('\n' :: s, rest)
      | none =>
        if isPlain c then do
          let (s, rest) ← multiline quote escapes fuel rest
          return (c :: s, rest)
        else none

/-! ### Strings -/

/-- Reads a string on one line, of either kind. -/
def lineString : List Char → Option (String × List Char)
  | '"' :: rest => (basic (rest.length + 1) rest).map fun (s, rest) ↦ (String.ofList s, rest)
  | '\'' :: rest => (literal rest).map fun (s, rest) ↦ (String.ofList s, rest)
  | _ => none

/-- Reads a string of any kind. -/
def string (cs : List Char) : Option (String × List Char) :=
  let several (quote : Char) (escapes : Bool) (rest : List Char) : Option (String × List Char) :=
    let rest := (afterNewline? rest).getD rest
    (multiline quote escapes (rest.length + 1) rest).map fun (s, rest) ↦ (String.ofList s, rest)
  match cs with
  | '"' :: '"' :: '"' :: rest => several '"' true rest
  | '\'' :: '\'' :: '\'' :: rest => several '\'' false rest
  | cs => lineString cs

end FilterLang.Toml
