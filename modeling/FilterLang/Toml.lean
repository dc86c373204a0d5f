import FilterLang.Json

/-!
# Tables of TOML

A document is a table that is filled section by section. A header opens a table or adds one to an
array of tables; a dotted key goes through tables that it makes on the way. What a table may still
be used for depends on how it came to be: one that was only passed through may be opened later by a
header of its own, one that a dotted key made may be extended by dotted keys, and any other is
complete.
-/

namespace FilterLang.Toml

/-- How a table came to be. -/
inductive Origin where
  /-- By a header of its own, or as the whole document. -/
  | header
  /-- On the way to a table further down. -/
  | passage
  /-- By a dotted key. -/
  | dotted
  deriving Repr, DecidableEq

mutual

/-- A table: how it came to be, and its entries in order. -/
inductive Table where
  | mk (origin : Origin) (entries : List (String × Item))

/-- What stands under a key. -/
inductive Item where
  | value (v : Json)
  | table (t : Table)
  /-- An array of tables: the last one and those before it, the last of them first. -/
  | tables (last : Table) (earlier : List Table)

end

namespace Table

/-- How a table came to be. -/
def origin : Table → Origin
  | mk origin _ => origin

/-- The entries of a table. -/
def entries : Table → List (String × Item)
  | mk _ entries => entries

/-- A table without entries. -/
def empty (origin : Origin) : Table := mk origin []

/-- What stands under a key. -/
def get? (t : Table) (key : String) : Option Item := t.entries.lookup key

/-- The table with an item under a key, in the place of the one that stood there or at the end. -/
def put (t : Table) (key : String) (item : Item) : Table :=
  if (t.get? key).isSome then
    mk t.origin (t.entries.map fun (k, i) ↦ if k == key then (k, item) else (k, i))
  else mk t.origin (t.entries ++ [(key, item)])

/-- The table without a key. -/
def erase (t : Table) (key : String) : Table :=
  mk t.origin (t.entries.filter fun (k, _) ↦ k != key)

/-- Changes the table at the end of a path, making tables of the given origin on the way. Through an
array of tables the path goes by the last one. A dotted key passes only through tables that have no
header of their own. There is no such table where a value stands in the way. -/
def alter (made : Origin) (f : Table → Option Table) : List String → Table → Option Table
  | [], t => f t
  | key :: path, t =>
    match t.get? key with
    | none => do
      let u ← alter made f path (empty made)
      return t.put key (.table u)
    | some (.value _) => none
    | some (.tables last earlier) => do
      let u ← alter made f path last
      return t.put key (.tables u earlier)
    | some (.table u) => do
      if made == .dotted && u.origin == .header then none
      let u ← alter made f path u
      return t.put key (.table u)

/-- Adds a value under a dotted key, which must be new. The last part stands in a table that the
parts before it made. -/
def insert (path : List String) (key : String) (v : Json) (t : Table) : Option Table :=
  t.alter .dotted (fun u ↦
    if !path.isEmpty && u.origin != .dotted then none
    else if (u.get? key).isSome then none
    else some (u.put key (.value v))) path

/-! ### Sections -/

/-- The header of a section. -/
inductive Header where
  /-- The beginning of the document. -/
  | document
  | table (path : List String) (key : String)
  | tables (path : List String) (key : String)
  deriving Repr, DecidableEq

/-- Fills a table that a header opens. -/
def open? (fill : Table → Option Table) (entries : List (String × Item)) : Option Table :=
  fill (mk .header entries)

/-- Adds a section to a document. `fill` adds the entries of the section to its table. -/
def addSection (fill : Table → Option Table) : Header → Table → Option Table
  | .document, t => fill t
  | .table path key, t =>
    t.alter .passage (fun parent ↦
      match parent.get? key with
      | none => do return parent.put key (.table (← open? fill []))
      | some (.table u) =>
        if u.origin == .passage then do
          return (parent.erase key).put key (.table (← open? fill u.entries))
        else none
      | some _ => none) path
  | .tables path key, t =>
    t.alter .passage (fun parent ↦
      match parent.get? key with
      | none => do return parent.put key (.tables (← open? fill []) [])
      | some (.tables last earlier) => do
        return parent.put key (.tables (← open? fill []) (last :: earlier))
      | some _ => none) path

/-! ### Values -/

mutual

/-- The value of a table. -/
def toJson : Table → Json
  | mk _ entries => .obj (entriesToJson entries)

/-- The values of entries. -/
def entriesToJson : List (String × Item) → List (String × Json)
  | [] => []
  | (key, item) :: rest => (key, itemToJson item) :: entriesToJson rest

/-- The value of an item. -/
def itemToJson : Item → Json
  | .value v => v
  | .table t => toJson t
  | .tables last earlier => .arr ((toJsonAll earlier).reverse ++ [toJson last])

/-- The values of tables. -/
def toJsonAll : List Table → List Json
  | [] => []
  | t :: ts => toJson t :: toJsonAll ts

end

end Table

end FilterLang.Toml
