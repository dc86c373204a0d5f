import FilterLang.Check.Fields
import FilterLang.Check.Operators
import FilterLang.Check.Parentheses
import FilterLang.Check.Structure
import FilterLang.Check.Values
import FilterLang.Server.Answer

/-!
# Validation

All checks run over the same tokens and none stops another, so an author sees at once everything
that is wrong. The findings are kept in four parts. Reading the expression as a tree is the last
check: it is made only if no other found anything wrong, and what it finds belongs to the structure.

A validation never fails. The verdict of the server may be merged into it later; one rejection makes
it invalid for good, and a server that gives no answer changes nothing but the status shown.
-/

namespace FilterLang

/-! ### The result -/

/-- The findings about an expression, and the verdict of the server if it was asked. -/
structure Validation where
  structural : Check.Report
  fields : Check.Report
  operators : Check.Report
  values : Check.Report
  /-- Whether the expression passed all checks, those of the server included. -/
  valid : Bool
  server : Option Server.Verdict
  deriving Repr

namespace Validation

/-- The findings in the order in which they are listed. -/
def reports (v : Validation) : List Check.Report :=
  [v.structural, v.fields, v.operators, v.values]

/-- Whether no local check found anything wrong. -/
def localValid (v : Validation) : Bool := v.reports.all Check.Report.valid

/-! ### Places to mark -/

/-- Drops every highlight with the range and the message of an earlier one. -/
def distinct (hs : List Check.Highlight) : List Check.Highlight :=
  hs.foldl (fun kept h ↦
    if kept.any fun k ↦ k.start == h.start && k.stop == h.stop && k.message == h.message then kept
    else kept ++ [h]) []

/-- Orders highlights by where they start and then by where they end; those of one range keep their
order. -/
def inOrder (hs : List Check.Highlight) : List Check.Highlight :=
  hs.mergeSort fun a b ↦ a.start < b.start || a.start == b.start && a.stop ≤ b.stop

/-- The places to mark, each once, from left to right. -/
def highlights (v : Validation) : List Check.Highlight :=
  inOrder (distinct (v.reports.flatMap Check.Report.highlights))

/-- The number of places marked as errors. -/
def errorCount (v : Validation) : Nat :=
  (v.highlights.filter fun h ↦ h.severity == .error).length

/-! ### Validating -/

/-- What reading the expression as a tree finds, at the token that is blamed or at an empty
range. -/
def treeReport (tokens : List Token) (text : String) : Check.Report :=
  match Tree.parse text with
  | .ok _ => .empty
  | .error e =>
    match tokens.find? fun t ↦ t.start == e.offset with
    | some t => .errorOn t (.noTree e.fault) none
    | none => .errorAt e.offset e.offset (.noTree e.fault) none

/-- Validates an expression over the fields of a catalog. -/
def ofText (catalog : Catalog) (text : String) : Validation :=
  let tokens := tokenize catalog text
  let significant := Token.significant tokens
  let shapes := Check.Shape.ofTokens significant
  let structural := Check.checkStructure significant shapes ++ Check.checkParentheses text
  let fields := Check.checkFields shapes catalog
  let operators := Check.checkOperators shapes
  let values := Check.checkValues significant shapes
  let clean := [structural, fields, operators, values].all Check.Report.valid
  let structural := structural ++ .on clean (treeReport tokens text)
  let v : Validation := ⟨structural, fields, operators, values, true, none⟩
  { v with valid := v.localValid }

/-! ### The server -/

/-- Merges a verdict of the server. -/
def merge (v : Validation) (verdict : Server.Verdict) : Validation :=
  { v with valid := v.valid && !verdict.isRejection, server := some verdict }

@[simp] theorem server_merge (v : Validation) (s : Server.Verdict) :
    (v.merge s).server = some s := rfl

/-! ### Status indicators -/

/-- The parts of a validation for which an editor shows a status. -/
inductive Category where
  | structural
  | fields
  | operators
  | values
  | server
  deriving Repr, DecidableEq

/-- The name of a part. -/
def Category.name : Category → String
  | structural => "Syntax"
  | fields => "Fields"
  | operators => "Operators"
  | values => "Values"
  | server => "Server"

/-- The status of one part. -/
inductive Indicator where
  | ok
  | warning
  | error
  | notChecked
  | unavailable
  deriving Repr, DecidableEq

/-- The status of a part that is checked locally. -/
def Indicator.ofReport (r : Check.Report) : Indicator :=
  if !r.valid then error
  else if !r.warnings.isEmpty then warning
  else ok

/-- The status of the check by the server. -/
def Indicator.ofVerdict : Option Server.Verdict → Indicator
  | none => notChecked
  | some verdict =>
    match verdict.status with
    | .confirmed => ok
    | .rejected _ => error
    | .unavailable _ => unavailable

/-- The status of every part. -/
def indicators (v : Validation) : List (Category × Indicator) := [
  (.structural, .ofReport v.structural),
  (.fields, .ofReport v.fields),
  (.operators, .ofReport v.operators),
  (.values, .ofReport v.values),
  (.server, .ofVerdict v.server)]

/-! ### The document -/

/-- The document of one part: whether it is free of errors, the errors, and the warnings if there
are any. -/
def partJson (r : Check.Report) : Json :=
  let texts (ps : List Check.Problem) : Json := .arr (ps.map fun p ↦ .str p.message)
  .obj ([("valid", .bool r.valid), ("errors", texts r.errors)] ++
    if r.warnings.isEmpty then [] else [("warnings", texts r.warnings)])

/-- The document of a place to mark. -/
def highlightJson (h : Check.Highlight) : Json :=
  .obj ([("start", .int h.start), ("end", .int h.stop), ("severity", .str h.severity.name),
    ("message", .str h.message)] ++ h.suggestion.toList.map fun s ↦ ("suggestion", .str s))

/-- The document of a validation. -/
def toJson (v : Validation) : Json :=
  .obj ([("valid", .bool v.valid), ("syntax", partJson v.structural), ("fields", partJson v.fields),
    ("operators", partJson v.operators), ("values", partJson v.values),
    ("highlights", .arr (v.highlights.map highlightJson))] ++
    v.server.toList.map fun s ↦ ("serverValidation", s.toJson))

end Validation

end FilterLang
