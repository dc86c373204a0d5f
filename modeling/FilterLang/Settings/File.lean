import FilterLang.Folder
import FilterLang.Settings
import FilterLang.Toml.Reader

/-!
# Settings files

Settings are stored as TOML. A file fails in one of two ways: it cannot be read as text, or the text
does not describe settings.
-/

namespace FilterLang.Settings

/-- Why a file gives no settings. -/
inductive Fault where
  | unreadable (f : FileFault)
  /-- The text is not TOML, or its values are not settings. -/
  | malformed
  deriving Repr, DecidableEq

/-- The settings that a text describes. -/
def ofText (text : String) : Except Fault Settings :=
  match (Toml.read text).map (ofJson Toml.convention) with
  | some (.ok s) => .ok s
  | _ => .error .malformed

/-- The settings that a file describes, given what came of reading it. -/
def ofFile (content : Except FileFault String) : Except Fault Settings :=
  match content with
  | .ok text => ofText text
  | .error f => .error (.unreadable f)

end FilterLang.Settings
