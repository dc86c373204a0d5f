import FilterLang.Text.Uppercase
import Std.Data.ExtTreeSet

/-!
# The catalog of fields

The fields an expression may name, in the order in which they were listed. A catalog is built by
`Catalog.ofFields`, which drops entries without a name and later entries with a name already taken.

Beside the entries, which are shown, a catalog keeps their names, which a mistyped word is compared
with, and an index of the names, in which the words of an expression are looked up. The three grow
together (`Catalog.push`), and the type of catalogs says how they agree.
-/

namespace FilterLang

/-- A field that an expression may name, with what is shown about it. -/
structure Field where
  name : String
  displayName : String
  type : String
  nullable : Bool
  deriving Repr, DecidableEq

namespace Field

/-- The type of a field about which nothing else is known. -/
def defaultType : String := "string"

/-- A name for people: the parts between underscores, each with its first letter in upper case,
joined by blanks. -/
def displayNameOf (name : String) : String :=
  let capital : List Char → List Char
    | [] => []
    | c :: rest => Text.upperChar c ++ rest
  let parts := (name.toList.splitOn '_').filter (!·.isEmpty)
  " ".intercalate (parts.map fun part ↦ String.ofList (capital part))

/-- The entry for a field of which only the name is known. -/
def named (name : String) : Field := ⟨name, displayNameOf name, defaultType, false⟩

@[simp] theorem name_named (name : String) : (named name).name = name := rfl

end Field

/-- An ordered set of fields with pairwise distinct, nonempty names. -/
structure Catalog where
  /-- The entries, in the order in which they were listed. -/
  fields : List Field
  /-- The names of the entries, in the same order. -/
  names : List String
  /-- The names as a set. -/
  index : Std.ExtTreeSet String
  /-- The names keep up with the entries. -/
  names_eq : names = fields.map Field.name
  /-- The index holds the names and nothing else. -/
  mem_index_iff : ∀ name, name ∈ index ↔ name ∈ names
  name_ne_empty : ∀ name ∈ names, name ≠ ""
  nodup_names : names.Nodup
  deriving Repr

namespace Catalog

/-- The entries of a catalog determine it. -/
theorem eq_of_fields_eq {c d : Catalog} (h : c.fields = d.fields) : c = d := by
  have hnames : c.names = d.names := by rw [c.names_eq, d.names_eq, h]
  have hindex : c.index = d.index :=
    Std.ExtTreeSet.ext_mem fun name ↦ by rw [c.mem_index_iff, d.mem_index_iff, hnames]
  cases c
  cases d
  simp only [mk.injEq]
  exact ⟨h, hnames, hindex⟩

instance : DecidableEq Catalog := fun c d ↦
  decidable_of_iff (c.fields = d.fields) ⟨eq_of_fields_eq, congrArg fields⟩

/-- The catalog without fields. -/
def empty : Catalog where
  fields := []
  names := []
  index := ∅
  names_eq := rfl
  mem_index_iff := by simp
  name_ne_empty := by simp
  nodup_names := List.nodup_nil

instance : EmptyCollection Catalog := ⟨empty⟩

/-- Whether a field of this name is known. -/
def contains (c : Catalog) (name : String) : Bool := c.index.contains name

/-- The number of fields. -/
def size (c : Catalog) : Nat := c.names.length

/-- Whether no field is known. -/
def isEmpty (c : Catalog) : Bool := c.names.isEmpty

theorem contains_iff {c : Catalog} {name : String} : c.contains name = true ↔ name ∈ c.names :=
  c.mem_index_iff name

/-- The catalog with one more field at its end, of a name that is not taken. -/
def push (c : Catalog) (f : Field) (hname : f.name ≠ "") (hnew : f.name ∉ c.names) : Catalog where
  fields := c.fields ++ [f]
  names := c.names ++ [f.name]
  index := c.index.insert f.name
  names_eq := by simp [c.names_eq]
  mem_index_iff name := by
    rw [Std.ExtTreeSet.mem_insert, Std.LawfulEqCmp.compare_eq_iff_eq, c.mem_index_iff]
    simp [or_comm, eq_comm]
  name_ne_empty := by simpa [or_imp, forall_and, hname] using c.name_ne_empty
  nodup_names := by
    refine List.nodup_append.2 ⟨c.nodup_names, by simp, fun name hmem last hlast ↦ ?_⟩
    rw [List.mem_singleton.1 hlast]
    exact ne_of_mem_of_not_mem hmem hnew

/-- The catalog with one more field at its end, unless the name is empty or taken. -/
def insert (c : Catalog) (f : Field) : Catalog :=
  if h : f.name = "" ∨ c.contains f.name = true then c
  else c.push f (mt .inl h) (mt (.inr ∘ contains_iff.2) h)

/-- The catalog of a list of fields. -/
def ofFields (fields : List Field) : Catalog := fields.foldl insert empty

/-- The catalog of a list of names. -/
def ofNames (names : List String) : Catalog := ofFields (names.map Field.named)

/-- The fields that every channel source has. -/
def builtinNames : List String :=
  ["channel_name", "group_title", "tvg_id", "tvg_name", "tvg_logo", "tvg_shift", "tvg_chno",
    "stream_url"]

/-- The catalog used when nothing else is known. -/
def builtin : Catalog := ofNames builtinNames

@[simp] theorem fields_empty : (∅ : Catalog).fields = [] := rfl

@[simp] theorem names_empty : (∅ : Catalog).names = [] := rfl

@[simp] theorem contains_empty (name : String) : (∅ : Catalog).contains name = false := rfl

@[simp] theorem fields_push (c : Catalog) (f : Field) (hname : f.name ≠ "")
    (hnew : f.name ∉ c.names) : (c.push f hname hnew).fields = c.fields ++ [f] := rfl

@[simp] theorem names_push (c : Catalog) (f : Field) (hname : f.name ≠ "")
    (hnew : f.name ∉ c.names) : (c.push f hname hnew).names = c.names ++ [f.name] := rfl

theorem insert_eq_self {c : Catalog} {f : Field} (h : f.name = "" ∨ f.name ∈ c.names) :
    c.insert f = c :=
  dif_pos (h.imp_right contains_iff.2)

theorem insert_eq_push {c : Catalog} {f : Field} (hname : f.name ≠ "") (hnew : f.name ∉ c.names) :
    c.insert f = c.push f hname hnew :=
  dif_neg (not_or.2 ⟨hname, mt contains_iff.1 hnew⟩)

@[simp] theorem ofFields_nil : ofFields [] = ∅ := rfl

theorem ofFields_concat (fields : List Field) (f : Field) :
    ofFields (fields ++ [f]) = (ofFields fields).insert f :=
  List.foldl_append

theorem isEmpty_iff {c : Catalog} : c.isEmpty = true ↔ c.names = [] := List.isEmpty_iff

end Catalog

end FilterLang
