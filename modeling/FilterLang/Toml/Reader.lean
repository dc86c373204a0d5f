import FilterLang.Json.Decode
import FilterLang.Toml
import FilterLang.Toml.Scalar

/-!
# Reading TOML

A document is a list of lines, of which each is empty, opens a section or gives a value to a key.
What is wrong with a malformed document is not told apart.

Arrays and inline tables nest to a fixed depth. Within one of them, fuel bounds the number of items
by the length of the text.
-/

namespace FilterLang.Toml

/-- Brackets nest less deep than this, and a dotted key has fewer parts. -/
def maxDepth : Nat := 80

/-! ### Between values -/

/-- The text after the blanks of a line. -/
def skipSpaces (cs : List Char) : List Char := cs.dropWhile isSpace

/-- The text after a comment, if there is one. -/
def skipComment : List Char → List Char
  | '#' :: rest => rest.dropWhile isPlain
  | cs => cs

/-- The text after the end of a line, which may have blanks and a comment. The text may end
instead. -/
def afterLine? (cs : List Char) : Option (List Char) :=
  match skipComment (skipSpaces cs) with
  | [] => some []
  | cs => afterNewline? cs

/-- The text after blanks, comments and line feeds. Fuel bounds the number of lines. -/
def skipLines : Nat → List Char → List Char
  | 0, cs => cs
  | fuel + 1, cs =>
    let cs := skipSpaces cs
    match afterNewline? (skipComment cs) with
    | some rest => skipLines fuel rest
    | none => cs

/-! ### Keys -/

/-- Whether a character may stand in a key without quotes. -/
def isKeyChar (c : Char) : Bool := c.isAlphanum || c == '_' || c == '-'

/-- Reads one part of a key. -/
def simpleKey (cs : List Char) : Option (String × List Char) :=
  match cs with
  | c :: _ =>
    if c == '"' || c == '\'' then lineString cs
    else if isKeyChar c then some (String.ofList (cs.takeWhile isKeyChar), cs.dropWhile isKeyChar)
    else none
  | [] => none

/-- Reads the parts of a dotted key, at most `fuel` of them. -/
def keyParts : Nat → List Char → Option (List String × List Char)
  | 0, _ => none
  | fuel + 1, cs => do
    let (part, rest) ← simpleKey (skipSpaces cs)
    match skipSpaces rest with
    | '.' :: after =>
      let (parts, rest) ← keyParts fuel after
      return (part :: parts, rest)
    | rest => return ([part], rest)

/-- Reads a dotted key: the parts before the last, and the last. -/
def dottedKey (cs : List Char) : Option ((List String × String) × List Char) := do
  let (parts, rest) ← keyParts (maxDepth - 1) cs
  return ((parts.dropLast, ← parts.getLast?), rest)

/-! ### Values -/

/-- A way of reading a value. -/
abbrev ValueReader := List Char → Option (Json × List Char)

/-- Reads the items of an array and its closing bracket. -/
def arrayItems (value : ValueReader) : Nat → List Char → Option (List Json × List Char)
  | 0, _ => none
  | fuel + 1, cs =>
    match skipLines cs.length cs with
    | ']' :: rest => some ([], rest)
    | cs => do
      let (v, rest) ← value cs
      match skipLines rest.length rest with
      | ',' :: rest =>
        let (vs, rest) ← arrayItems value fuel rest
        return (v :: vs, rest)
      | ']' :: rest => return ([v], rest)
      | _ => none

/-- Reads a key with its value. -/
def keyValue (value : ValueReader) (cs : List Char) :
    Option (((List String × String) × Json) × List Char) := do
  let (key, rest) ← dottedKey cs
  match rest with
  | '=' :: rest =>
    let (v, rest) ← value (skipSpaces rest)
    return ((key, v), rest)
  | _ => none

/-- Reads the entries of an inline table and its closing brace. -/
def inlineEntries (value : ValueReader) : Nat → Table → List Char → Option (Table × List Char)
  | 0, _, _ => none
  | fuel + 1, t, cs => do
    let (((path, key), v), rest) ← keyValue value cs
    let t ← t.insert path key v
    match skipSpaces rest with
    | ',' :: rest => inlineEntries value fuel t rest
    | '\x7d' :: rest => return (t, rest)
    | _ => none

/-- Reads a value without brackets. -/
def simpleValue : ValueReader
  | [] => none
  | c :: rest =>
    let cs := c :: rest
    if c == '"' || c == '\'' then (string cs).map fun (s, rest) ↦ (.str s, rest)
    else if List.isPrefixOf "true".toList cs then some (.bool true, cs.drop 4)
    else if List.isPrefixOf "false".toList cs then some (.bool false, cs.drop 5)
    else if c == '[' || c == '\x7b' then none
    else scalar cs

/-- Reads a value with brackets nested at most to the given depth. -/
def valueWithin : Nat → ValueReader
  | 0, cs => simpleValue cs
  | depth + 1, cs =>
    match cs with
    | '[' :: rest =>
      (arrayItems (valueWithin depth) (rest.length + 1) rest).map fun (vs, rest) ↦ (.arr vs, rest)
    | '\x7b' :: rest =>
      match skipSpaces rest with
      | '\x7d' :: rest => some (.obj [], rest)
      | rest =>
        (inlineEntries (valueWithin depth) (rest.length + 1) (.empty .header) rest).map
          fun (t, rest) ↦ (t.toJson, rest)
    | cs => simpleValue cs

/-- Reads a value. -/
def value : ValueReader := valueWithin (maxDepth - 1)

/-! ### Documents -/

/-- One line of a document. -/
inductive Line where
  | blank
  | header (h : Table.Header)
  | entry (path : List String) (key : String) (v : Json)

/-- Reads one line and returns the text after it. -/
def line (cs : List Char) : Option (Line × List Char) :=
  match skipSpaces cs with
  | '[' :: '[' :: rest => do
    let ((path, key), rest) ← dottedKey rest
    match rest with
    | ']' :: ']' :: rest => return (.header (.tables path key), ← afterLine? rest)
    | _ => none
  | '[' :: rest => do
    let ((path, key), rest) ← dottedKey rest
    match rest with
    | ']' :: rest => return (.header (.table path key), ← afterLine? rest)
    | _ => none
  | cs =>
    match afterLine? cs with
    | some rest => some (.blank, rest)
    | none => do
      let (((path, key), v), rest) ← keyValue value cs
      return (.entry path key v, ← afterLine? rest)

/-- Reads the lines of a document. Fuel bounds their number. -/
def lines : Nat → List Char → Option (List Line)
  | 0, _ => some []
  | _ + 1, [] => some []
  | fuel + 1, cs => do
    let (l, rest) ← line cs
    return l :: (← lines fuel rest)

/-- Adds the entries of lines to a table. -/
def fill (entries : List (List String × String × Json)) (t : Table) : Option Table :=
  entries.foldlM (fun t (path, key, v) ↦ t.insert path key v) t

/-- The sections of a document: each header with the entries below it. -/
def sections (current : Table.Header) (entries : List (List String × String × Json)) :
    List Line → List (Table.Header × List (List String × String × Json))
  | [] => [(current, entries.reverse)]
  | .blank :: rest => sections current entries rest
  | .header h :: rest => (current, entries.reverse) :: sections h [] rest
  | .entry path key v :: rest => sections current ((path, key, v) :: entries) rest

/-- Reads a document. A byte order mark at its start is skipped. -/
def read (text : String) : Option Json := do
  let cs :=
    match text.toList with
    | '\ufeff' :: rest => rest
    | cs => cs
  let ls ← lines (cs.length + 1) cs
  let t ← (sections .document [] ls).foldlM
    (fun t (h, entries) ↦ t.addSection (fill entries) h) (Table.empty .header)
  return t.toJson

/-- The conventions of TOML documents: beside a choice an empty table or array may stand, and an
array may hold more items than a structure has fields. -/
def convention : Json.Convention where
  isUnit
    | .arr [] => true
    | .obj [] => true
    | _ => false
  surplus := true

end FilterLang.Toml
