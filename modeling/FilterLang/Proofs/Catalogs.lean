import FilterLang.Proofs.Entries
import FilterLang.Server.Calls
import FilterLang.Settings.File

/-!
# Where a catalog comes from

A session takes the fields that the server lists. Where the server lists none or does not answer, it
takes the fields that are set, and where none are set, those that every source has.

A field without a name is dropped from a catalog, so a catalog is empty exactly if none of the
fields that it was built from has a name (`names_ofFields_eq_nil_iff`). What the server lists is
looked at after such fields have been dropped and what is set is looked at before, and a list of
empty names is not empty. So settings with such a list leave a session without fields where the
server does not help, and `names_catalogOf_eq_nil_iff` says that nothing else does.
-/

namespace FilterLang

namespace Catalog

variable {fields : List Field} {names : List String}

/-- A catalog is empty exactly if no field that it was built from has a name. -/
theorem names_ofFields_eq_nil_iff : (ofFields fields).names = [] ↔ ∀ f ∈ fields, f.name = "" := by
  rw [List.eq_nil_iff_forall_not_mem]
  constructor
  · intro hnone f hf
    by_contra hne
    exact hnone f.name (((lists_ofFields fields).mem_names_iff f.name).2 ⟨hne, f, hf, rfl⟩)
  · intro hall name hmem
    obtain ⟨hne, f, hf, rfl⟩ := ((lists_ofFields fields).mem_names_iff name).1 hmem
    exact hne (hall f hf)

theorem names_ofNames_eq_nil_iff : (ofNames names).names = [] ↔ ∀ name ∈ names, name = "" := by
  rw [ofNames, names_ofFields_eq_nil_iff]
  simp

theorem names_builtin_ne_nil : builtin.names ≠ [] := by decide

end Catalog

/-- The fields that are set make an empty catalog exactly if all of them are empty names. -/
theorem FieldSettings.names_catalog_eq_nil_iff {s : FieldSettings} :
    s.catalog.names = [] ↔ s.builtin ≠ [] ∧ ∀ name ∈ s.builtin, name = "" := by
  rw [FieldSettings.catalog]
  split
  · rename_i hnil
    exact iff_of_false Catalog.names_builtin_ne_nil fun h ↦ h.1 (List.isEmpty_iff.1 hnil)
  · rename_i hne
    rw [Catalog.names_ofNames_eq_nil_iff]
    exact ⟨fun h ↦ ⟨mt List.isEmpty_iff.2 hne, h⟩, And.right⟩

namespace Server

/-- A session starts without a field exactly if the server lists none with a name, or gives no
answer, and the settings list nothing but empty names. -/
theorem names_catalogOf_eq_nil_iff (s : FieldSettings) (reply : Reply) :
    (catalogOf s reply).names = [] ↔
      (∀ fields, decoded .fields Field.listOfJson reply = .ok fields → ∀ f ∈ fields, f.name = "") ∧
        s.builtin ≠ [] ∧ ∀ name ∈ s.builtin, name = "" := by
  rw [← FieldSettings.names_catalog_eq_nil_iff, catalogOf]
  cases decoded .fields Field.listOfJson reply with
  | error f => simp
  | ok fields =>
    simp only [Except.ok.injEq, forall_eq']
    rw [← Catalog.names_ofFields_eq_nil_iff]
    split
    · rename_i hempty
      exact (and_iff_right (Catalog.isEmpty_iff.1 hempty)).symm
    · rename_i hne
      exact iff_of_false (mt Catalog.isEmpty_iff.2 hne) fun h ↦ hne (Catalog.isEmpty_iff.2 h.1)

/-- A file of settings with an empty name for its only field leaves a session without fields if the
server gives no answer. -/
theorem names_catalogOf_of_empty_name : ∃ c : Settings,
    Settings.ofFile (.ok "[fields]\nbuiltin = [\"\"]\n") = .ok c ∧
      ∀ f : Failure, (catalogOf c.fields (.error f)).names = [] := by
  refine ⟨{ Settings.default with fields := ⟨[""]⟩ }, by decide +kernel, fun f ↦ rfl⟩

end Server

end FilterLang
