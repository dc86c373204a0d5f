import FilterLang.Json.Strict
import FilterLang.Text.Blank
import FilterLang.Text.Letter
import FilterLang.Text.WordChar

/-!
# Relaxed JSON

The dialect for documents written by hand. Beyond the standard it has comments, single-quoted
strings, more escapes, lines continued inside strings, keys without quotes, signed and hexadecimal
numerals, numerals that start or end with a point, the words `Infinity` and `NaN`, and a comma
before a closing bracket. What has no value in JSON, an infinity or NaN, is read as null. Brackets
may nest without a limit.
-/

namespace FilterLang.Json.Relaxed

/-! ### Blanks and comments -/

/-- Whether `c` ends a line. -/
def isLineEnd (c : Char) : Bool :=
  c == '\n' || c == '\r' || c.toNat == 0x2028 || c.toNat == 0x2029

/-- Whether `c` may stand between tokens: the blanks except the next-line character, and the byte
order mark. -/
def isSpace (c : Char) : Bool := (Text.isBlank c && c.toNat != 0x85) || c.toNat == 0xFEFF

/-- The text after the end of a block comment. -/
def afterBlock (cs : List Char) : Except ReadFault (Rest cs) :=
  match cs with
  | [] => .error .unfinished
  | '*' :: '/' :: rest => .ok ⟨rest, by simp only [List.length_cons]; omega⟩
  | _ :: rest => do
    let ⟨after, h⟩ ← afterBlock rest
    return ⟨after, Nat.le_succ_of_le h⟩

/-- Skips blanks and comments. -/
def skip (cs : List Char) : Except ReadFault (Rest cs) :=
  match cs with
  | [] => .ok ⟨[], Nat.le_refl _⟩
  | '/' :: '/' :: rest => do
    have h := (List.dropWhile_suffix (l := rest) (!isLineEnd ·)).length_le
    let ⟨left, h'⟩ ← skip (rest.dropWhile (!isLineEnd ·))
    return ⟨left, by simp only [List.length_cons]; omega⟩
  | '/' :: '*' :: rest => do
    let ⟨after, h⟩ ← afterBlock rest
    let ⟨left, h'⟩ ← skip after
    return ⟨left, by simp only [List.length_cons]; omega⟩
  | c :: rest =>
    if isSpace c then do
      let ⟨left, h⟩ ← skip rest
      return ⟨left, Nat.le_succ_of_le h⟩
    else .ok ⟨c :: rest, Nat.le_refl _⟩
termination_by cs.length
decreasing_by all_goals simp only [List.length_cons]; omega

/-! ### Strings and keys -/

/-- The character of a one-letter escape. Digits other than zero and the letters that begin a longer
escape have none; every other character escapes itself. -/
def escaped? (c : Char) : Option Char :=
  if c == 'b' then some (Char.ofNat 8)
  else if c == 'f' then some (Char.ofNat 12)
  else if c == 'n' then some '\n'
  else if c == 'r' then some '\r'
  else if c == 't' then some '\t'
  else if c == 'v' then some (Char.ofNat 11)
  else if c == 'x' || c == 'u' || c.isDigit then none
  else some c

/-- Whether a text begins with a digit. -/
def startsWithDigit : List Char → Bool
  | c :: _ => c.isDigit
  | [] => false

/-- Reads what follows a backslash in a string: the characters that it stands for. -/
def escape (cs : List Char) : Read (List Char) cs :=
  match cs with
  | [] => .error .unfinished
  | 'x' :: a :: b :: rest =>
    match hexNumber? [a, b] with
    | some n => .ok ([Char.ofNat n], ⟨rest, lt_cons_cons_cons⟩)
    | none => .error .malformed
  | 'u' :: rest => do
    let (c, ⟨after, h⟩) ← unicodeEscape rest
    return ([c], ⟨after, lt_cons_of_lt h⟩)
  | '\r' :: '\n' :: rest => .ok ([], ⟨rest, lt_cons_cons⟩)
  | '0' :: rest =>
    if startsWithDigit rest then .error .malformed
    else .ok ([Char.ofNat 0], ⟨rest, lt_cons⟩)
  | c :: rest =>
    if isLineEnd c then .ok ([], ⟨rest, lt_cons⟩)
    else
      match escaped? c with
      | some e => .ok ([e], ⟨rest, lt_cons⟩)
      | none => .error .malformed

/-- Reads the rest of a string up to its closing quote, given the characters so far, last first. -/
def stringBody (quote : Char) (acc : List Char) (cs : List Char) : Read String cs :=
  match cs with
  | [] => .error .unfinished
  | '\\' :: rest => do
    let (e, ⟨after, h⟩) ← escape rest
    let (s, ⟨rest', h'⟩) ← stringBody quote (e.reverse ++ acc) after
    return (s, ⟨rest', lt_cons_of_lt_of_lt h h'⟩)
  | c :: rest =>
    if c == quote then .ok (String.ofList acc.reverse, ⟨rest, lt_cons⟩)
    else if c == '\n' || c == '\r' then .error .malformed
    else do
      let (s, ⟨rest', h⟩) ← stringBody quote (c :: acc) rest
      return (s, ⟨rest', lt_cons_of_lt h⟩)
termination_by cs.length
decreasing_by all_goals simp only [List.length_cons]; omega

/-- Whether `c` may begin a key without quotes. -/
def isKeyStart (c : Char) : Bool := Text.isLetter c || c == '$' || c == '_'

/-- Whether `c` may stand in a key without quotes. -/
def isKeyPart (c : Char) : Bool := Text.isIdentifierPart c || c == '$'

/-- Reads the rest of a key without quotes, given the characters so far, last first. -/
def keyRest (acc : List Char) (cs : List Char) : Except ReadFault (String × Rest cs) :=
  match cs with
  | [] => .ok (String.ofList acc.reverse, ⟨[], Nat.le_refl _⟩)
  | '\\' :: 'u' :: rest => do
    let (c, ⟨after, h⟩) ← unicodeEscape rest
    if (if acc.isEmpty then isKeyStart c else isKeyPart c) then
      let (s, ⟨rest', h'⟩) ← keyRest (c :: acc) after
      return (s, ⟨rest', by simp only [List.length_cons]; omega⟩)
    else .error .malformed
  | c :: rest =>
    if isKeyPart c then do
      let (s, ⟨rest', h⟩) ← keyRest (c :: acc) rest
      return (s, ⟨rest', Nat.le_succ_of_le h⟩)
    else .ok (String.ofList acc.reverse, ⟨c :: rest, Nat.le_refl _⟩)
termination_by cs.length
decreasing_by all_goals simp only [List.length_cons]; omega

/-- Reads a key: a string, or an identifier. -/
def key : Reader String
  | [] => .error .unfinished
  | c :: rest =>
    if c == '"' || c == '\'' then do
      let (s, ⟨rest', h⟩) ← stringBody c [] rest
      return (s, ⟨rest', lt_cons_of_lt h⟩)
    else if isKeyStart c then do
      let (s, ⟨rest', h⟩) ← keyRest [c] rest
      return (s, ⟨rest', lt_cons_of_le h⟩)
    else if c == '\\' then do
      let (s, ⟨rest', _⟩) ← keyRest [] (c :: rest)
      if h : rest'.length < (c :: rest).length then return (s, ⟨rest', h⟩) else .error .malformed
    else .error .malformed

/-! ### Numerals -/

/-- The double of a decimal `n * 10 ^ e`. Beyond the range of doubles it is infinite or zero. -/
def double (n : Nat) (e : Int) : Float :=
  let power := e + ((toString n).length : Int)
  if n == 0 || power < -400 then 0
  else if 400 < power then Float.ofScientific 1 false 400
  else Float.ofScientific n (decide (e < 0)) e.natAbs

/-- The value of a double: null for those that JSON cannot express. -/
def ofDouble (f : Float) : Json := if f.isFinite then .float f.toBits else .null

/-- The value of a whole number: an integer if it fits, and a double otherwise. -/
def ofWhole (negative : Bool) (n : Nat) : Json :=
  if n ≤ (if negative then Nat.pow 2 63 else Numeral.maxSignificand) then
    .int (if negative then -(n : Int) else n)
  else
    let f := double n 0
    ofDouble (if negative then -f else f)

/-- The greatest magnitude of a hexadecimal numeral: that of an integer of 128 bits, signed if the
numeral is. -/
def maxHexadecimal (negative : Bool) : Nat := if negative then Nat.pow 2 127 else Nat.pow 2 128 - 1

/-- Reads a hexadecimal numeral after its `0x`. -/
def hexadecimal (negative : Bool) : Reader Json
  | [] => .error .unfinished
  | c :: rest =>
    let isHex (c : Char) : Bool := (hexValue? c).isSome
    if isHex c then
      let n := (hexNumber? (c :: rest.takeWhile isHex)).getD 0
      if maxHexadecimal negative < n then .error .malformed
      else .ok (ofWhole negative n, ⟨rest.dropWhile isHex, by
        have := (List.dropWhile_suffix (l := rest) isHex).length_le
        simp only [List.length_cons]
        omega⟩)
    else .error .malformed

/-- Reads a decimal numeral, which needs a digit on one side of its point. -/
def decimal (negative : Bool) : Reader Json := fun cs ↦ do
  let whole := cs.takeWhile Char.isDigit
  if 1 < whole.length && whole.head? == some '0' then .error .malformed
  let after := cs.dropWhile Char.isDigit
  let (fraction, ⟨after', _⟩) : Option (List Char) × Rest after :=
    match after with
    | '.' :: rest =>
      (some (rest.takeWhile Char.isDigit), ⟨rest.dropWhile Char.isDigit, dropWhile_le_cons⟩)
    | after => (none, ⟨after, le_self⟩)
  if whole.isEmpty && (fraction.getD []).isEmpty then .error .malformed
  let (exponent, ⟨rest, _⟩) ← exponent? after'
  let v :=
    match fraction, exponent with
    | none, none => ofWhole negative (Numeral.ofDigits whole)
    | fraction, exponent =>
      let places := fraction.getD []
      let f := double (Numeral.ofDigits (whole ++ places)) (exponent.getD 0 - (places.length : Int))
      ofDouble (if negative then -f else f)
  if h : rest.length < cs.length then return (v, ⟨rest, h⟩) else .error .malformed

/-- Reads a numeral after its sign. -/
def numeral (negative : Bool) : Reader Json := fun cs ↦
  match cs with
  | '0' :: x :: rest =>
    if x == 'x' || x == 'X' then do
      let (v, ⟨rest', h⟩) ← hexadecimal negative rest
      return (v, ⟨rest', by simp only [List.length_cons]; omega⟩)
    else decimal negative ('0' :: x :: rest)
  | 'I' :: rest => Strict.literal "nfinity" .null 'I' rest
  | 'N' :: rest => Strict.literal "aN" .null 'N' rest
  | cs => decimal negative cs

/-- Reads a literal, a numeral or a string. -/
def scalar : Reader Json
  | [] => .error .unfinished
  | 'n' :: rest => Strict.literal "ull" .null 'n' rest
  | 't' :: rest => Strict.literal "rue" (.bool true) 't' rest
  | 'f' :: rest => Strict.literal "alse" (.bool false) 'f' rest
  | '+' :: rest => do
    let (v, ⟨rest', h⟩) ← numeral false rest
    return (v, ⟨rest', lt_cons_of_lt h⟩)
  | '-' :: rest => do
    let (v, ⟨rest', h⟩) ← numeral true rest
    return (v, ⟨rest', lt_cons_of_lt h⟩)
  | c :: rest =>
    if c == '"' || c == '\'' then do
      let (s, ⟨rest', h⟩) ← stringBody c [] rest
      return (.str s, ⟨rest', lt_cons_of_lt h⟩)
    else numeral false (c :: rest)

/-- The dialect for documents written by hand. -/
def dialect : Dialect where
  skip := skip
  scalar := scalar
  key := key
  trailingComma := true

end FilterLang.Json.Relaxed

namespace FilterLang.Json

/-- Reads a text in the relaxed dialect. No text nests brackets deeper than it is long. -/
def readRelaxed (text : String) : Except ReadFault Json :=
  Relaxed.dialect.document text.length text

/-- Reads a text in strict JSON, or else in the relaxed dialect. A text in neither has the fault
that the strict reader found. -/
def readLenient (text : String) : Except ReadFault Json :=
  match read text with
  | .ok v => .ok v
  | .error fault =>
    match readRelaxed text with
    | .ok v => .ok v
    | .error _ => .error fault

end FilterLang.Json
