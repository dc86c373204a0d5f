import FilterLang.Json.Decode

/-!
# What the server says

An expression that is correct by itself can still be refused by the server, which knows the data
that it will run on. The server is asked in one of two ways, and both answers become a `Verdict`:
whether the expression is confirmed, rejected with a reason, or whether no answer could be had, and
with it what the server found out on the way.
-/

namespace FilterLang.Server

/-! ### Verdicts -/

/-- How the check by the server ended. -/
inductive Status where
  | confirmed
  | rejected (error : String)
  /-- No answer could be had, for the given reason. -/
  | unavailable (reason : String)
  deriving Repr, DecidableEq

/-- How many of the channels an expression matches. -/
structure MatchCount where
  matched : Nat
  total : Nat
  deriving Repr, DecidableEq

/-- The outcome of a check by the server. -/
structure Verdict where
  status : Status
  /-- The tree that the server made of the expression. -/
  tree : Option Json
  count : Option MatchCount
  deriving Repr

namespace Verdict

/-- The outcome of a check that got no answer. -/
def unavailable (reason : String) : Verdict := ⟨.unavailable reason, none, none⟩

/-- Whether the server refused the expression. -/
def isRejection (v : Verdict) : Bool :=
  match v.status with
  | .rejected _ => true
  | _ => false

@[simp] theorem isRejection_unavailable (reason : String) :
    (unavailable reason).isRejection = false := rfl

/-- The members of the document of a verdict. -/
def members (v : Verdict) : List (String × Json) :=
  (match v.status with
    | .confirmed => [("status", Json.str "confirmed")]
    | .rejected error => [("status", .str "rejected"), ("error", .str error)]
    | .unavailable reason => [("status", .str "unavailable"), ("reason", .str reason)]) ++
  (v.tree.toList.map fun t ↦ ("expression_tree", t)) ++
  v.count.toList.flatMap fun c ↦
    [("matched_count", .int c.matched), ("total_channels", .int c.total)]

/-- The document of a verdict. -/
def toJson (v : Verdict) : Json := .obj v.members

end Verdict

/-- The status that an answer means. A rejection without a reason gets a general one. -/
def statusOf (isValid : Bool) (error : Option String) : Status :=
  if isValid then .confirmed else .rejected (error.getD "Rejected by server")

/-! ### The answer to a validation -/

/-- The server's answer to the question whether an expression is valid. -/
structure ValidateResponse where
  isValid : Bool
  error : Option String
  tree : Option Json
  deriving Repr

namespace ValidateResponse

/-- How an answer is decoded. -/
def layout : Json.Layout ValidateResponse where
  name := "ValidateResponse"
  fields := ["is_valid", "error", "expression_tree"]
  required := ["is_valid"]
  initial := ⟨true, none, none⟩
  put r key v :=
    match key with
    | "is_valid" => return { r with isValid := ← v.asBool }
    | "error" => return { r with error := ← v.asOption Json.asString }
    | _ => return { r with tree := ← v.asOption Json.asIs }

/-- Decodes an answer. -/
def ofJson (v : Json) : Except Json.Mismatch ValidateResponse := layout.decode Json.convention v

/-- The verdict that an answer means. -/
def verdict (r : ValidateResponse) : Verdict := ⟨statusOf r.isValid r.error, r.tree, none⟩

end ValidateResponse

/-! ### The answer to a test -/

/-- The server's answer to the question which channels an expression matches. -/
structure TestResponse where
  isValid : Bool
  error : Option String
  count : MatchCount
  channels : List Json
  tree : Option Json
  deriving Repr

namespace TestResponse

/-- How an answer is decoded. -/
def layout : Json.Layout TestResponse where
  name := "TestResponse"
  fields :=
    ["is_valid", "error", "matched_count", "total_channels", "matching_channels", "expression_tree"]
  required := ["is_valid"]
  initial := ⟨true, none, ⟨0, 0⟩, [], none⟩
  put r key v :=
    match key with
    | "is_valid" => return { r with isValid := ← v.asBool }
    | "error" => return { r with error := ← v.asOption Json.asString }
    | "matched_count" => return { r with count := { r.count with matched := ← v.asCount } }
    | "total_channels" => return { r with count := { r.count with total := ← v.asCount } }
    | "matching_channels" => return { r with channels := ← v.asList Json.asIs }
    | _ => return { r with tree := ← v.asOption Json.asIs }

/-- Decodes an answer. -/
def ofJson (v : Json) : Except Json.Mismatch TestResponse := layout.decode Json.convention v

/-- The verdict that an answer means. -/
def verdict (r : TestResponse) : Verdict := ⟨statusOf r.isValid r.error, r.tree, some r.count⟩

/-- The document of an answer. -/
def toJson (r : TestResponse) : Json :=
  .obj [("is_valid", .bool r.isValid), ("error", (r.error.map Json.str).getD .null),
    ("matched_count", .int r.count.matched), ("total_channels", .int r.count.total),
    ("matching_channels", .arr r.channels), ("expression_tree", r.tree.getD .null)]

end TestResponse

end FilterLang.Server
