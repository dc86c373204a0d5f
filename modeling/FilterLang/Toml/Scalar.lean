import FilterLang.Json.Relaxed
import FilterLang.Toml.Quoted

/-!
# Numbers and times of TOML

A number or a time is a run of letters, digits and a few signs that no other value can hold, so it
is cut off first and then recognised as a whole. An integer has 64 bits. A date may be followed by a
time after a blank.

A time is kept as a table with its text under a key of its own, which no setting asks for.
-/

namespace FilterLang.Toml

/-- Whether a character may stand in a number or a time. -/
def isScalarChar (c : Char) : Bool :=
  c.isAlphanum || c == '+' || c == '-' || c == '.' || c == ':' || c == '_'

/-! ### Numbers -/

/-- The digits of a numeral in which underscores stand only between digits. -/
def digitsOf? (isDigit : Char → Bool) : List Char → Option (List Char)
  | [] => none
  | [c] => if isDigit c then some [c] else none
  | c :: '_' :: rest => if isDigit c then (digitsOf? isDigit rest).map (c :: ·) else none
  | c :: rest => if isDigit c then (digitsOf? isDigit rest).map (c :: ·) else none

/-- The digits of a decimal integer, which starts with a zero only if it is zero. -/
def wholeOf? (cs : List Char) : Option (List Char) := do
  let ds ← digitsOf? Char.isDigit cs
  if ds.head? == some '0' && ds.length != 1 then none else some ds

/-- A sign and the text after it. -/
def signOf : List Char → Bool × List Char
  | '-' :: rest => (true, rest)
  | '+' :: rest => (false, rest)
  | cs => (false, cs)

/-- An integer, if it has at most 64 bits. -/
def ofInt? (n : Int) : Option Json :=
  if -Int.pow 2 63 ≤ n && n < Int.pow 2 63 then some (.int n) else none

/-- The number that digits denote. -/
def valueOf (base : Nat) (ds : List Char) : Nat :=
  ds.foldl (fun n c ↦ base * n + (hexValue? c).getD 0) 0

/-- An integer. -/
def integer? (cs : List Char) : Option Json :=
  let based (base : Nat) (rest : List Char) : Option Json := do
    let ds ← digitsOf? (fun c ↦ (hexValue? c).any (· < base)) rest
    ofInt? (valueOf base ds)
  match cs with
  | '0' :: 'x' :: rest => based 16 rest
  | '0' :: 'o' :: rest => based 8 rest
  | '0' :: 'b' :: rest => based 2 rest
  | cs => do
    let (negative, rest) := signOf cs
    let n : Int := valueOf 10 (← wholeOf? rest)
    ofInt? (if negative then -n else n)

/-- The exponent of a number that is not whole. -/
def exponentOf? (cs : List Char) : Option Int := do
  let (negative, rest) := signOf cs
  let n : Int := valueOf 10 (← digitsOf? Char.isDigit rest)
  return if negative then -n else n

/-- A number with a fraction or an exponent, or one that is not finite. No numeral stands for an
infinite number above zero. -/
def float? (cs : List Char) : Option Json := do
  let (negative, rest) := signOf cs
  let signed (f : Float) : Json := .float (if negative then -f else f).toBits
  if rest == ['i', 'n', 'f'] then return signed (1 / 0)
  if rest == ['n', 'a', 'n'] then return signed (0 / 0)
  let isMark (c : Char) : Bool := c == 'e' || c == 'E'
  let mantissa := rest.takeWhile fun c ↦ !isMark c
  let whole := mantissa.takeWhile (· != '.')
  let fraction ←
    match mantissa.dropWhile (· != '.') with
    | [] => pure none
    | _ :: digits => (digitsOf? Char.isDigit digits).map some
  let exponent ←
    match rest.dropWhile fun c ↦ !isMark c with
    | [] => pure none
    | _ :: digits => (exponentOf? digits).map some
  let ds ← wholeOf? whole
  if fraction.isNone && exponent.isNone then none
  let places := fraction.getD []
  let f := Json.Relaxed.double (valueOf 10 (ds ++ places)) (exponent.getD 0 - (places.length : Int))
  if f.isInf && !negative then none
  return signed f

/-! ### Times -/

/-- Reads a number of exactly `n` digits within bounds. -/
def field (n low high : Nat) (cs : List Char) : Option (Nat × List Char) :=
  let ds := cs.take n
  let v := valueOf 10 ds
  if ds.length == n && ds.all Char.isDigit && low ≤ v && v ≤ high then some (v, cs.drop n) else none

/-- Reads a sign. -/
def sign (c : Char) : List Char → Option (List Char)
  | d :: rest => if c == d then some rest else none
  | [] => none

/-- The number of days of a month. -/
def daysOf (year month : Nat) : Nat :=
  if month == 2 then
    if year % 4 == 0 && (year % 100 != 0 || year % 400 == 0) then 29 else 28
  else if [4, 6, 9, 11].contains month then 30
  else 31

/-- Reads a date and returns the text after it. -/
def date (cs : List Char) : Option (List Char) := do
  let (year, cs) ← field 4 0 9999 cs
  let cs ← sign '-' cs
  let (month, cs) ← field 2 1 12 cs
  let cs ← sign '-' cs
  let (_, cs) ← field 2 1 (daysOf year month) cs
  return cs

/-- Reads a time of day and returns the text after it. -/
def time (cs : List Char) : Option (List Char) := do
  let (_, cs) ← field 2 0 23 cs
  let cs ← sign ':' cs
  let (_, cs) ← field 2 0 59 cs
  let cs ← sign ':' cs
  let (_, cs) ← field 2 0 60 cs
  match cs with
  | '.' :: rest =>
    if (rest.head?.map Char.isDigit).getD false then some (rest.dropWhile Char.isDigit) else none
  | cs => some cs

/-- Whether a text is nothing or the offset of a time zone. -/
def isOffset : List Char → Bool
  | [] => true
  | ['Z'] => true
  | ['z'] => true
  | c :: rest =>
    let offset : Option (List Char) := do
      let (_, cs) ← field 2 0 23 rest
      let cs ← sign ':' cs
      let (_, cs) ← field 2 0 59 cs
      return cs
    (c == '+' || c == '-') && offset == some []

/-- Whether a text is a time of day, perhaps with an offset. -/
def isTimed (cs : List Char) : Bool := (time cs).any isOffset

/-- Whether a text is a date, a time of day, or a date with a time. -/
def isMoment (cs : List Char) : Bool :=
  time cs == some [] ||
    match date cs with
    | some [] => true
    | some (c :: rest) => (c == 'T' || c == 't') && isTimed rest
    | none => false

/-- The value of a time. -/
def moment (cs : List Char) : Json :=
  .obj [("$__toml_private_datetime", .str (String.ofList cs))]

/-! ### Scalars -/

/-- Reads a number or a time. -/
def scalar (cs : List Char) : Option (Json × List Char) :=
  let word := cs.takeWhile isScalarChar
  let rest := cs.dropWhile isScalarChar
  match rest with
  | ' ' :: after =>
    let second := after.takeWhile isScalarChar
    if date word == some [] && isTimed second then
      some (moment (word ++ 'T' :: second), after.dropWhile isScalarChar)
    else single word rest
  | _ => single word rest
where
  /-- A number or a time of one word. -/
  single (word rest : List Char) : Option (Json × List Char) :=
    let v := if isMoment word then some (moment word) else (float? word).or (integer? word)
    v.map fun v ↦ (v, rest)

end FilterLang.Toml
