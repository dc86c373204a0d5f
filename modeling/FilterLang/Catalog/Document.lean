import FilterLang.Catalog
import FilterLang.Json.Decode

/-!
# Fields as JSON

The document in which a list of fields is exchanged: one object a field, of whose members only the
name must be there.
-/

namespace FilterLang

namespace Field

/-- How a field is decoded. -/
def layout : Json.Layout Field where
  name := "FieldInfo"
  fields := ["name", "display_name", "field_type", "nullable"]
  required := ["name"]
  initial := ⟨"", "", defaultType, false⟩
  put f key v :=
    match key with
    | "name" => return { f with name := ← v.asString }
    | "display_name" => return { f with displayName := ← v.asString }
    | "field_type" => return { f with type := ← v.asString }
    | _ => return { f with nullable := ← v.asBool }

/-- Decodes a field. -/
def ofJson (v : Json) : Except Json.Mismatch Field := layout.decode Json.convention v

/-- Decodes a list of fields. -/
def listOfJson (v : Json) : Except Json.Mismatch (List Field) := v.asList ofJson

/-- The document of a field. -/
def toJson (f : Field) : Json :=
  .obj [("name", .str f.name), ("display_name", .str f.displayName), ("field_type", .str f.type),
    ("nullable", .bool f.nullable)]

end Field

/-- The document of a catalog: the list of its fields. -/
def Catalog.toJson (c : Catalog) : Json := .arr (c.fields.map Field.toJson)

end FilterLang
