import FilterLang.Decimal.Notation

/-!
# JSON values

The values that stored filters, server answers and settings are made of. Members of an object are
kept in a list, in the order in which they are written; the readers build objects with distinct keys
in ascending order, so that two texts of one value give equal lists.

A number is an integer between `-2 ^ 63` and `2 ^ 64`, or a double, which is kept as its bits.
-/

namespace FilterLang

/-- A JSON value. -/
inductive Json where
  | null
  | bool (b : Bool)
  | int (n : Int)
  /-- The double with the given bits. -/
  | float (bits : UInt64)
  | str (s : String)
  | arr (items : List Json)
  | obj (members : List (String × Json))
  deriving Repr

namespace Json

instance : Inhabited Json := ⟨null⟩

/-! ### Members -/

/-- The value of a key. -/
def member? (members : List (String × Json)) (key : String) : Option Json := members.lookup key

/-- The value of a key of an object. -/
def get? : Json → String → Option Json
  | obj members, key => member? members key
  | _, _ => none

/-- Members in ascending order with one more; a value that the key had is replaced. -/
def insertMember (key : String) (value : Json) : List (String × Json) → List (String × Json)
  | [] => [(key, value)]
  | (k, v) :: rest =>
    if key < k then (key, value) :: (k, v) :: rest
    else if key == k then (key, value) :: rest
    else (k, v) :: insertMember key value rest

/-- The object of a list of members, of which the last for each key counts. -/
def ofMembers (members : List (String × Json)) : Json :=
  obj (members.foldl (fun ms (k, v) ↦ insertMember k v ms) [])

mutual

/-- The value with the members of every object in ascending order. -/
def sorted : Json → Json
  | arr items => arr (sortedItems items)
  | obj members => ofMembers (sortedMembers members)
  | v => v

/-- The values of a list, each sorted. -/
def sortedItems : List Json → List Json
  | [] => []
  | v :: vs => sorted v :: sortedItems vs

/-- The members of a list, each sorted within. -/
def sortedMembers : List (String × Json) → List (String × Json)
  | [] => []
  | (k, v) :: ms => (k, sorted v) :: sortedMembers ms

end

/-! ### Writing -/

/-- A digit of a hexadecimal numeral. -/
def hexDigit (n : Nat) : Char := (Nat.toDigits 16 n).headD '0'

/-- A character inside a string. Quotes, backslashes and control characters are escaped. -/
def escapeChar (c : Char) : List Char :=
  if c == '"' then ['\\', '"']
  else if c == '\\' then ['\\', '\\']
  else if c == '\n' then ['\\', 'n']
  else if c == '\r' then ['\\', 'r']
  else if c == '\t' then ['\\', 't']
  else if c.toNat == 8 then ['\\', 'b']
  else if c.toNat == 12 then ['\\', 'f']
  else if c.toNat < 32 then ['\\', 'u', '0', '0', hexDigit (c.toNat / 16), hexDigit (c.toNat % 16)]
  else [c]

/-- A string in its quotes. -/
def quoted (s : String) : List Char := '"' :: (s.toList.flatMap escapeChar ++ ['"'])

/-- A double as text; one that is not finite has none in JSON and is written as null. -/
def floatText (bits : UInt64) : String :=
  match Decimal.Binary.ofBits? bits with
  | some b => b.render .json
  | none => "null"

mutual

/-- The characters of a value without white space. -/
def compactChars : Json → List Char
  | null => "null".toList
  | bool b => (toString b).toList
  | int n => (toString n).toList
  | float bits => (floatText bits).toList
  | str s => quoted s
  | arr items => '[' :: (List.intercalate [','] (compactItems items) ++ [']'])
  | obj members => '{' :: (List.intercalate [','] (compactMembers members) ++ ['}'])

/-- The values of a list without white space. -/
def compactItems : List Json → List (List Char)
  | [] => []
  | v :: vs => compactChars v :: compactItems vs

/-- The members of a list without white space. -/
def compactMembers : List (String × Json) → List (List Char)
  | [] => []
  | (k, v) :: ms => (quoted k ++ ':' :: compactChars v) :: compactMembers ms

end

/-- The text of a value without white space. -/
def compact (v : Json) : String := String.ofList v.compactChars

/-- A new line and the indentation of the given depth, two blanks a level. -/
def newline (depth : Nat) : List Char := '\n' :: List.replicate (2 * depth) ' '

/-- Items in brackets, each on a line of its own. Without items the brackets stay together. -/
def block (opening closing : Char) (depth : Nat) : List (List Char) → List Char
  | [] => [opening, closing]
  | items =>
    opening :: (newline (depth + 1) ++ List.intercalate (',' :: newline (depth + 1)) items ++
      newline depth ++ [closing])

mutual

/-- The characters of a value over several lines, at the given depth. -/
def prettyChars (depth : Nat) : Json → List Char
  | arr items => block '[' ']' depth (prettyItems (depth + 1) items)
  | obj members => block '{' '}' depth (prettyMembers (depth + 1) members)
  | v => compactChars v

/-- The values of a list over several lines. -/
def prettyItems (depth : Nat) : List Json → List (List Char)
  | [] => []
  | v :: vs => prettyChars depth v :: prettyItems depth vs

/-- The members of a list over several lines. -/
def prettyMembers (depth : Nat) : List (String × Json) → List (List Char)
  | [] => []
  | (k, v) :: ms => (quoted k ++ ':' :: ' ' :: prettyChars depth v) :: prettyMembers depth ms

end

/-- The text of a value over several lines. -/
def pretty (v : Json) : String := String.ofList (v.prettyChars 0)

end Json

end FilterLang
