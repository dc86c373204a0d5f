import FilterLang.Server.Calls
import FilterLang.Validation

/-!
# Editing sessions

While an expression is edited, every edit is validated at once and the result is shown. Where the
expression is correct by itself, the server is asked about it later; its verdict is shown with the
result it belongs to, and only while that result is still the latest one.

A session holds what is shown and no more. When the server is asked is decided elsewhere: an edit
returns an inquiry, and `Session.answer` takes the verdict on an inquiry, however late it comes.
-/

namespace FilterLang

/-- What is shown after an edit. -/
structure Update where
  /-- The number of the edit, counted from one. -/
  generation : Nat
  text : String
  result : Validation
  deriving Repr

namespace Update

/-- Whether the server was asked about the edit. -/
def isAuthoritative (u : Update) : Bool := u.result.server.isSome

/-- Whether the server will be asked about the edit. -/
def awaitsServer (u : Update) : Bool := u.result.localValid && !u.isAuthoritative

/-- The document of an update. -/
def toJson (u : Update) : Json :=
  .obj [("generation", .int u.generation), ("text", .str u.text), ("result", u.result.toJson)]

end Update

/-- A question to the server about an edit, with the result that the edit has without it. -/
structure Inquiry where
  generation : Nat
  request : Server.Request
  result : Validation
  deriving Repr

/-- An editing session. -/
structure Session where
  catalog : Catalog
  settings : EditorSettings
  /-- The number of edits so far. -/
  edits : Nat
  latest : Option Update
  deriving Repr

namespace Session

/-- A session before its first edit. -/
def start (catalog : Catalog) (settings : EditorSettings) : Session := ⟨catalog, settings, 0, none⟩

/-- Takes an edit. The inquiry is absent if the expression is already known to be wrong. -/
def edit (s : Session) (text : String) : Session × Option Inquiry :=
  let generation := s.edits + 1
  let result := Validation.ofText s.catalog text
  let inquiry : Inquiry := ⟨generation, .ofSettings s.settings text, result⟩
  ({ s with edits := generation, latest := some ⟨generation, text, result⟩ },
    if result.valid then some inquiry else none)

/-- Takes the verdict on an inquiry, if the inquiry is about the latest edit. -/
def answer? (s : Session) (i : Inquiry) (v : Server.Verdict) : Option Session :=
  match s.latest with
  | some u =>
    if u.generation = i.generation then
      some { s with latest := some { u with result := i.result.merge v } }
    else none
  | none => none

/-- Takes the verdict on an inquiry. One about an earlier edit changes nothing. -/
def answer (s : Session) (i : Inquiry) (v : Server.Verdict) : Session := (s.answer? i v).getD s

end Session

end FilterLang
