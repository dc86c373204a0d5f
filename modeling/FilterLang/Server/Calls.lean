import FilterLang.Catalog.Document
import FilterLang.Server.Answer
import FilterLang.Server.Failure
import FilterLang.Settings

/-!
# Calls to the server

The server is asked three things: which fields it knows, whether an expression is valid, and which
channels it matches. A test says more than a validation, so an expression is tested where a source
is selected, and validated where none is.
-/

namespace FilterLang.Server

/-! ### Requests -/

/-- What the server is asked about an expression. -/
structure Request where
  expression : String
  sourceKind : SourceKind
  sourceId : Option String
  isInverse : Bool
  deriving Repr, DecidableEq

namespace Request

/-- The request for an expression under the settings of the editor. -/
def ofSettings (s : EditorSettings) (expression : String) : Request :=
  ⟨expression, s.sourceKind, s.sourceId, s.isInverse⟩

/-- The document of a request. -/
def toJson (r : Request) : Json :=
  .obj [("filter_expression", .str r.expression), ("source_type", .str r.sourceKind.name),
    ("source_id", (r.sourceId.map Json.str).getD .null), ("is_inverse", .bool r.isInverse)]

/-- Whether a source is selected. -/
def hasSource (r : Request) : Bool := r.sourceId.isSome

end Request

/-! ### The calls -/

/-- The three things to ask. -/
inductive Call where
  | fields
  | validate
  | test
  deriving Repr, DecidableEq

namespace Call

/-- The name of a call. -/
def name : Call → String
  | fields => "fields"
  | validate => "validate"
  | test => "test"

/-- The path of a call on the server. -/
def path (c : Call) : String := "/filters/" ++ c.name

/-- The call by which an expression is checked. -/
def ofRequest (r : Request) : Call := if r.hasSource then test else validate

end Call

/-- A call, together with what it is about. -/
inductive Question where
  | fields
  | validate (r : Request)
  | test (r : Request)
  deriving Repr, DecidableEq

namespace Question

/-- The call that puts a question. -/
def call : Question → Call
  | fields => .fields
  | validate _ => .validate
  | test _ => .test

/-- The question whether an expression is correct. -/
def check (r : Request) : Question := if r.hasSource then test r else validate r

/-- What a question says about an expression. The question about the fields is about none. -/
def request? : Question → Option Request
  | fields => none
  | validate r => some r
  | test r => some r

@[simp] theorem request?_check (r : Request) : (check r).request? = some r := by
  unfold check; split <;> rfl

end Question

/-- What came back from a call: the value of its body, or why there is none. -/
abbrev Reply := Except Failure Json

/-- The decoded body of a reply. -/
def decoded {α : Type} (c : Call) (decode : Json → Except Json.Mismatch α) (reply : Reply) :
    Except Failure α :=
  match reply with
  | .error f => .error f
  | .ok body => (decode body).mapError (.decode c.path)

/-- The verdict that a reply to a check means. A failed call gives no answer and is no rejection. -/
def verdictOf (r : Request) (reply : Reply) : Verdict :=
  let verdict :=
    if r.hasSource then (decoded .test TestResponse.ofJson reply).map TestResponse.verdict
    else (decoded .validate ValidateResponse.ofJson reply).map ValidateResponse.verdict
  match verdict with
  | .ok v => v
  | .error f => .unavailable f.message

/-- The catalog of the fields that the server knows. Where it knows none or gives no answer, the
fields that are set are used. -/
def catalogOf (s : FieldSettings) (reply : Reply) : Catalog :=
  match decoded .fields Field.listOfJson reply with
  | .ok fields =>
    let catalog := Catalog.ofFields fields
    if catalog.isEmpty then s.catalog else catalog
  | .error _ => s.catalog

/-! ### Servers out of reach -/

/-- The reply to a question where no connection can be opened: the first fault on the way there. -/
def offline (s : ServerSettings) (q : Question) : Reply :=
  match route s.endpoint q.call.path with
  | .error f => .error (.request f)
  | .ok u => .error (.request (.connection u))

end FilterLang.Server
