import FilterLang.Catalog
import Mathlib.Data.List.Forall2
import Mathlib.Data.List.Induction
import Mathlib.Data.List.Nodup

/-!
# What a catalog holds

A catalog is built in one pass over a row of fields. What it holds in the end can be said without
that pass: its names are the names in the row, the empty one apart, each is listed where it first
occurs, and its entry is the first field of this name. `Catalog.Lists` says so of a row and a
catalog. Each field that the pass comes to keeps it, whether it is taken or not (`Lists.insert`),
and at most one catalog lists a row (`Lists.unique`).

That the names and the index keep up with the entries is settled where a field is put into a catalog
(`Catalog.push`). It is in the type of catalogs, so it holds of every catalog, and the entries alone
determine the other two. As a catalog lists its own entries, it is the one that is built from them.
-/

namespace FilterLang

namespace Catalog

variable {fields : List Field} {c d : Catalog} {f : Field}

/-- A catalog lists a row of fields if it has one entry for each name in the row. -/
structure Lists (fields : List Field) (c : Catalog) : Prop where
  /-- The names are those of the row, the empty one apart. -/
  mem_names_iff : ∀ name, name ∈ c.names ↔ name ≠ "" ∧ ∃ f ∈ fields, f.name = name
  /-- They are in the order in which they first occur in the row. -/
  order : c.names.Pairwise fun a b ↦
    (fields.map Field.name).idxOf a < (fields.map Field.name).idxOf b
  /-- The entries are, name by name, the first fields of these names. -/
  entries : List.Forall₂ (fun name f ↦ fields.find? (·.name == name) = some f) c.names c.fields

namespace Lists

theorem mem_map_of_mem (h : Lists fields c) {name : String} (hname : name ∈ c.names) :
    name ∈ fields.map Field.name :=
  List.mem_map.2 ((h.mem_names_iff name).1 hname).2

/-! ### One more field -/

/-- A name first occurs in a row where it first occurs in a beginning of the row. -/
theorem order_append (h : Lists fields c) (more : List Field) : c.names.Pairwise fun a b ↦
    ((fields ++ more).map Field.name).idxOf a < ((fields ++ more).map Field.name).idxOf b := by
  refine h.order.imp_of_mem fun ha hb hlt ↦ ?_
  rwa [List.map_append, List.idxOf_append_of_mem (h.mem_map_of_mem ha),
    List.idxOf_append_of_mem (h.mem_map_of_mem hb)]

theorem entries_append (h : Lists fields c) (more : List Field) :
    List.Forall₂ (fun name f ↦ (fields ++ more).find? (·.name == name) = some f)
      c.names c.fields :=
  h.entries.imp fun name f hf ↦ by rw [List.find?_append, hf, Option.some_or]

/-- A field that is not taken changes nothing about what is listed. -/
theorem append_of_dropped (h : Lists fields c) (hdrop : f.name = "" ∨ f.name ∈ c.names) :
    Lists (fields ++ [f]) c where
  mem_names_iff name := by
    constructor
    · intro hmem
      obtain ⟨hne, g, hg, rfl⟩ := (h.mem_names_iff name).1 hmem
      exact ⟨hne, g, List.mem_append_left _ hg, rfl⟩
    · rintro ⟨hne, g, hg, rfl⟩
      rcases List.mem_append.1 hg with hg | hg
      · exact (h.mem_names_iff g.name).2 ⟨hne, g, hg, rfl⟩
      · obtain rfl := List.mem_singleton.1 hg
        exact hdrop.resolve_left hne
  order := h.order_append [f]
  entries := h.entries_append [f]

/-- A field with a new name is the last entry, as its name does not occur before it. -/
theorem append_of_pushed (h : Lists fields c) (hname : f.name ≠ "") (hnew : f.name ∉ c.names) :
    Lists (fields ++ [f]) (c.push f hname hnew) := by
  have hfirst : f.name ∉ fields.map Field.name := fun hmem ↦
    hnew ((h.mem_names_iff f.name).2 ⟨hname, List.mem_map.1 hmem⟩)
  constructor
  case mem_names_iff =>
    intro name
    rw [names_push, List.mem_append, List.mem_singleton, h.mem_names_iff]
    constructor
    · rintro (⟨hne, g, hg, rfl⟩ | rfl)
      · exact ⟨hne, g, List.mem_append_left _ hg, rfl⟩
      · exact ⟨hname, f, List.mem_append_right _ (List.mem_singleton_self f), rfl⟩
    · rintro ⟨hne, g, hg, rfl⟩
      rcases List.mem_append.1 hg with hg | hg
      · exact .inl ⟨hne, g, hg, rfl⟩
      · exact .inr (congrArg Field.name (List.mem_singleton.1 hg))
  case order =>
    rw [names_push, List.pairwise_append]
    refine ⟨h.order_append [f], List.pairwise_singleton _ _, fun a ha b hb ↦ ?_⟩
    rw [List.mem_singleton.1 hb, List.map_append, List.idxOf_append_of_notMem hfirst,
      List.idxOf_append_of_mem (h.mem_map_of_mem ha)]
    exact Nat.lt_add_right _ (List.idxOf_lt_length_of_mem (h.mem_map_of_mem ha))
  case entries =>
    have hlast : (fields ++ [f]).find? (·.name == f.name) = some f := by
      have hnone : fields.find? (·.name == f.name) = none :=
        List.find?_eq_none.2 fun g hg heq ↦ hfirst (List.mem_map.2 ⟨g, hg, beq_iff_eq.1 heq⟩)
      rw [List.find?_append, hnone, Option.none_or, List.find?_singleton, beq_self_eq_true,
        if_pos rfl]
    rw [names_push, fields_push]
    exact List.rel_append (h.entries_append [f]) (.cons hlast .nil)

theorem insert (h : Lists fields c) (f : Field) : Lists (fields ++ [f]) (c.insert f) := by
  by_cases hdrop : f.name = "" ∨ f.name ∈ c.names
  · rw [insert_eq_self hdrop]
    exact h.append_of_dropped hdrop
  · obtain ⟨hname, hnew⟩ := not_or.1 hdrop
    rw [insert_eq_push hname hnew]
    exact h.append_of_pushed hname hnew

/-! ### The catalog that lists a row -/

theorem names_eq (hc : Lists fields c) (hd : Lists fields d) : c.names = d.names := by
  have hperm : c.names.Perm d.names := (List.perm_ext_iff_of_nodup c.nodup_names d.nodup_names).2
    fun name ↦ (hc.mem_names_iff name).trans (hd.mem_names_iff name).symm
  exact hperm.eq_of_pairwise (fun a b _ _ hab hba ↦ (Nat.lt_asymm hab hba).elim) hc.order hd.order

/-- At most one catalog lists a row of fields. -/
theorem unique (hc : Lists fields c) (hd : Lists fields d) : c = d := by
  have hentries := hd.entries
  rw [← hc.names_eq hd] at hentries
  refine eq_of_fields_eq (List.right_unique_forall₂' ?_ hc.entries hentries)
  intro name f g hf hg
  exact Option.some.inj (hf.symm.trans hg)

end Lists

/-! ### Catalogs that are built -/

theorem lists_ofFields (fields : List Field) : Lists fields (ofFields fields) := by
  induction fields using List.reverseRecOn with
  | nil => constructor <;> simp
  | append_singleton fields f ih =>
    rw [ofFields_concat]
    exact ih.insert f

/-- An entry is the first of its name, as there is no other. -/
theorem find?_fields (hf : f ∈ c.fields) : c.fields.find? (·.name == f.name) = some f := by
  cases hfind : c.fields.find? (·.name == f.name) with
  | none => exact absurd BEq.rfl (List.find?_eq_none.1 hfind f hf)
  | some g =>
    have hnodup : (c.fields.map Field.name).Nodup := c.names_eq ▸ c.nodup_names
    have hname : g.name = f.name := by simpa using List.find?_some hfind
    rw [List.inj_on_of_nodup_map hnodup (List.mem_of_find?_eq_some hfind) hf hname]

/-- A catalog lists its own entries. -/
theorem lists_fields (c : Catalog) : Lists c.fields c where
  mem_names_iff name := by
    rw [← List.mem_map, ← c.names_eq]
    exact ⟨fun hmem ↦ ⟨c.name_ne_empty name hmem, hmem⟩, And.right⟩
  order := by
    rw [← c.names_eq, List.pairwise_iff_getElem]
    intro i j hi hj hlt
    rwa [c.nodup_names.idxOf_getElem i hi, c.nodup_names.idxOf_getElem j hj]
  entries := by
    rw [c.names_eq, List.forall₂_map_left_iff, List.forall₂_same]
    exact fun f hf ↦ find?_fields hf

/-- Building a catalog from the entries of one gives it again. -/
theorem ofFields_fields (c : Catalog) : ofFields c.fields = c :=
  (lists_ofFields c.fields).unique c.lists_fields

/-- What can be relied on about the catalog of a row of fields. -/
structure IsCatalogOf (fields : List Field) (c : Catalog) : Prop extends Lists fields c where
  name_ne_empty : ∀ name ∈ c.names, name ≠ ""
  nodup_names : c.names.Nodup
  contains_iff : ∀ name, c.contains name = true ↔ name ∈ c.names
  size_eq : c.size = c.names.length
  isEmpty_iff : c.isEmpty = true ↔ c.names = []
  /-- Its entries are a row of which it is the catalog. -/
  ofFields_fields : ofFields c.fields = c

/-- A catalog is the one that is built from a row of fields exactly if its names, its entries and
its index agree with the row and with each other. -/
theorem eq_ofFields_iff_isCatalogOf (fields : List Field) (c : Catalog) :
    c = ofFields fields ↔ IsCatalogOf fields c := by
  constructor
  · rintro rfl
    exact
      { lists_ofFields fields with
        name_ne_empty := (ofFields fields).name_ne_empty
        nodup_names := (ofFields fields).nodup_names
        contains_iff := fun _ ↦ contains_iff
        size_eq := rfl
        isEmpty_iff := isEmpty_iff
        ofFields_fields := (ofFields fields).ofFields_fields }
  · exact fun h ↦ h.toLists.unique (lists_ofFields fields)

/-- A name is listed once, where it first occurs, and in the case in which it was given. -/
example : let c := ofNames ["b", "a", "b", ""]
    c.names = ["b", "a"] ∧ c.contains "a" = true ∧ c.contains "A" = false := by
  decide

end Catalog

end FilterLang
