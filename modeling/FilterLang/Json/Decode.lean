import FilterLang.Json
import FilterLang.Text.Debug

/-!
# Decoding JSON values

A value is decoded against an expectation, and a `Mismatch` says how it differs. Structures are
decoded from an object, whose unknown members are ignored, or from an array of the fields in their
order. Members are taken in the order of the object, so the first wrong one is reported, and absent
fields are noticed only after that.

Documents of another format are decoded in the same way once they have been read as values; what the
formats do not agree on is a `Convention`.
-/

namespace FilterLang.Json

/-- What formats of documents do not agree on. -/
structure Convention where
  /-- Whether a value may stand beside a choice that needs none. -/
  isUnit : Json → Bool
  /-- Whether an array may hold more items than the structure has fields. -/
  surplus : Bool

/-- The conventions of JSON documents. -/
def convention : Convention := ⟨fun v ↦ v matches .null, false⟩

/-- How a value differs from what was expected. -/
inductive Mismatch where
  /-- A value of another kind. -/
  | kind (found : Json) (expected : String)
  /-- A value of the right kind that is out of range. -/
  | range (found : Json) (expected : String)
  /-- An array of another length. -/
  | length (found : Nat) (expected : String)
  /-- An object without a required field. -/
  | missing (field : String)
  /-- A word that is not among the accepted ones. -/
  | choice (found : String) (accepted : List String)
  deriving Repr

/-- A value as messages name it. -/
def describe : Json → String
  | null => "null"
  | bool b => "boolean `" ++ toString b ++ "`"
  | int n => "integer `" ++ toString n ++ "`"
  | float bits => "floating point `" ++ floatText bits ++ "`"
  | str s => "string " ++ Text.debugQuoted s
  | arr _ => "sequence"
  | obj _ => "map"

/-- Alternatives as messages list them. -/
def alternatives (words : List String) : String :=
  let quoted := words.map fun w ↦ "`" ++ w ++ "`"
  match quoted with
  | [only] => only
  | [one, other] => one ++ " or " ++ other
  | many => "one of " ++ ", ".intercalate many

/-- The words for a mismatch. -/
def Mismatch.message : Mismatch → String
  | kind found expected => "invalid type: " ++ found.describe ++ ", expected " ++ expected
  | range found expected => "invalid value: " ++ found.describe ++ ", expected " ++ expected
  | length found expected => "invalid length " ++ toString found ++ ", expected " ++ expected
  | missing field => "missing field `" ++ field ++ "`"
  | choice found accepted =>
    "unknown variant `" ++ found ++ "`, expected " ++ alternatives accepted

/-! ### Simple values -/

/-- Expects a string. -/
def asString : Json → Except Mismatch String
  | str s => .ok s
  | v => .error (.kind v "a string")

/-- Expects a truth value. -/
def asBool : Json → Except Mismatch Bool
  | bool b => .ok b
  | v => .error (.kind v "a boolean")

/-- Expects a natural number of 64 bits. -/
def asCount : Json → Except Mismatch Nat
  | int n => if 0 ≤ n then .ok n.toNat else .error (.range (int n) "u64")
  | v => .error (.kind v "u64")

/-- Expects a list of values. -/
def asList {α : Type} (item : Json → Except Mismatch α) : Json → Except Mismatch (List α)
  | arr items => items.mapM item
  | v => .error (.kind v "a sequence")

/-- Expects null or a value. -/
def asOption {α : Type} (value : Json → Except Mismatch α) : Json → Except Mismatch (Option α)
  | null => .ok none
  | v => (value v).map some

/-- Takes any value as it is. -/
def asIs : Json → Except Mismatch Json := .ok

/-- Expects one of some words. Instead of the word alone an object may stand whose only key is the
word, beside a value that says nothing. -/
def asChoice {α : Type} (c : Convention) (choices : List (String × α)) (v : Json) :
    Except Mismatch α :=
  let pick (word : String) : Except Mismatch α :=
    match choices.lookup word with
    | some a => .ok a
    | none => .error (.choice word (choices.map Prod.fst))
  match v with
  | str word => pick word
  | obj [(word, content)] =>
    match pick word with
    | .ok a => if c.isUnit content then .ok a else .error (.kind content "unit")
    | .error e => .error e
  | obj _ => .error (.range v "map with a single key")
  | v => .error (.kind v "string or map")

/-! ### Structures -/

/-- How a structure is decoded: its fields in order, those that must be there, the structure before
anything was decoded, and how the value of a field is put into it. -/
structure Layout (σ : Type) where
  name : String
  fields : List String
  required : List String
  initial : σ
  put : σ → String → Json → Except Mismatch σ

namespace Layout

/-- Decodes a structure. -/
def decode {σ : Type} (c : Convention) (l : Layout σ) : Json → Except Mismatch σ
  | obj members => do
    let known := members.filter fun (key, _) ↦ l.fields.contains key
    let s ← known.foldlM (fun s (key, v) ↦ l.put s key v) l.initial
    match l.required.find? fun f ↦ !(known.any fun (key, _) ↦ key == f) with
    | some f => .error (.missing f)
    | none => .ok s
  | arr items => do
    let s ← (l.fields.zip items).foldlM (fun s (key, v) ↦ l.put s key v) l.initial
    if l.required.any fun f ↦ !(l.fields.take items.length).contains f then
      .error (.length items.length
        ("struct " ++ l.name ++ " with " ++ toString l.fields.length ++ " elements"))
    else if !c.surplus && l.fields.length < items.length then
      .error (.length items.length "fewer elements in array")
    else .ok s
  | v => .error (.kind v ("struct " ++ l.name))

end Layout

end FilterLang.Json
