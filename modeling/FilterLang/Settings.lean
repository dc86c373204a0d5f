import FilterLang.Catalog
import FilterLang.Json.Decode

/-!
# Settings

What a user can set: where the server is, how the editor behaves, and the fields that are known
without a server. Everything has a default, so a document of settings may leave out any part.

The quiet period that the editor waits before it asks the server is kept as it was set, and brought
between its bounds only where it is used.
-/

namespace FilterLang

/-! ### The parts -/

/-- The server to ask. -/
structure ServerSettings where
  /-- The address that the paths of the server are appended to. -/
  endpoint : String
  timeoutSeconds : Nat
  deriving Repr, DecidableEq

/-- The kinds of sources of channels. -/
inductive SourceKind where
  | stream
  | epg
  deriving Repr, DecidableEq

namespace SourceKind

/-- The name of a kind. -/
def name : SourceKind → String
  | stream => "stream"
  | epg => "epg"

/-- Each name and its kind. -/
def choices : List (String × SourceKind) := [stream, epg].map fun k ↦ (k.name, k)

end SourceKind

/-- How expressions are edited, and the source that they are checked against. -/
structure EditorSettings where
  quietMillis : Nat
  sourceKind : SourceKind
  sourceId : Option String
  isInverse : Bool
  deriving Repr, DecidableEq

/-- The fields that are known without a server. -/
structure FieldSettings where
  builtin : List String
  deriving Repr, DecidableEq

/-- All settings. -/
structure Settings where
  server : ServerSettings
  editor : EditorSettings
  fields : FieldSettings
  deriving Repr, DecidableEq

/-! ### Defaults -/

/-- A server on this machine. -/
def ServerSettings.default : ServerSettings := ⟨"http://localhost:8080/api/v1", 10⟩

/-- A short quiet period and no particular source. -/
def EditorSettings.default : EditorSettings := ⟨400, .stream, none, false⟩

/-- The fields that every source has. -/
def FieldSettings.default : FieldSettings := ⟨Catalog.builtinNames⟩

/-- The settings where nothing is set. -/
def Settings.default : Settings := ⟨.default, .default, .default⟩

/-! ### Derived values -/

namespace EditorSettings

/-- The shortest quiet period, in milliseconds. -/
def minQuiet : Nat := 300

/-- The longest quiet period, in milliseconds. -/
def maxQuiet : Nat := 500

/-- The quiet period before the server is asked, between its bounds. -/
def quiet (s : EditorSettings) : Nat := max minQuiet (min s.quietMillis maxQuiet)

theorem minQuiet_le_quiet (s : EditorSettings) : minQuiet ≤ s.quiet := Nat.le_max_left _ _

end EditorSettings

/-- The catalog of the fields that are set. An empty list stands for the fields that every source
has. -/
def FieldSettings.catalog (s : FieldSettings) : Catalog :=
  if s.builtin.isEmpty then .builtin else .ofNames s.builtin

/-! ### Documents -/

/-- How the settings of the server are decoded. -/
def ServerSettings.layout : Json.Layout ServerSettings where
  name := "ApiSettings"
  fields := ["endpoint", "timeout_secs"]
  required := []
  initial := .default
  put s key v :=
    match key with
    | "endpoint" => return { s with endpoint := ← v.asString }
    | _ => return { s with timeoutSeconds := ← v.asCount }

/-- How the settings of the editor are decoded. -/
def EditorSettings.layout (c : Json.Convention) : Json.Layout EditorSettings where
  name := "EditorSettings"
  fields := ["debounce_ms", "source_type", "source_id", "is_inverse"]
  required := []
  initial := .default
  put s key v :=
    match key with
    | "debounce_ms" => return { s with quietMillis := ← v.asCount }
    | "source_type" => return { s with sourceKind := ← v.asChoice c SourceKind.choices }
    | "source_id" => return { s with sourceId := ← v.asOption Json.asString }
    | _ => return { s with isInverse := ← v.asBool }

/-- How the fields that are set are decoded. -/
def FieldSettings.layout : Json.Layout FieldSettings where
  name := "FieldSettings"
  fields := ["builtin"]
  required := []
  initial := .default
  put _ _ v := return ⟨← v.asList Json.asString⟩

/-- How settings are decoded. -/
def Settings.layout (c : Json.Convention) : Json.Layout Settings where
  name := "FilterConfig"
  fields := ["api", "editor", "fields"]
  required := []
  initial := .default
  put s key v :=
    match key with
    | "api" => return { s with server := ← ServerSettings.layout.decode c v }
    | "editor" => return { s with editor := ← (EditorSettings.layout c).decode c v }
    | _ => return { s with fields := ← FieldSettings.layout.decode c v }

/-- Decodes settings. -/
def Settings.ofJson (c : Json.Convention) (v : Json) : Except Json.Mismatch Settings :=
  (layout c).decode c v

/-- Decodes the settings of the editor. -/
def EditorSettings.ofJson (c : Json.Convention) (v : Json) : Except Json.Mismatch EditorSettings :=
  (layout c).decode c v

/-- The document of the settings of the editor. -/
def EditorSettings.toJson (s : EditorSettings) : Json :=
  .obj [("debounce_ms", .int s.quietMillis), ("source_type", .str s.sourceKind.name),
    ("source_id", (s.sourceId.map Json.str).getD .null), ("is_inverse", .bool s.isInverse)]

/-- The document of settings. -/
def Settings.toJson (s : Settings) : Json :=
  .obj [
    ("api", .obj [("endpoint", .str s.server.endpoint),
      ("timeout_secs", .int s.server.timeoutSeconds)]),
    ("editor", s.editor.toJson),
    ("fields", .obj [("builtin", .arr (s.fields.builtin.map Json.str))])]

end FilterLang
