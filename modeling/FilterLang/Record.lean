import FilterLang.Json.Decode
import FilterLang.Text.Blank
import FilterLang.Tree.Document

/-!
# Stored filters

A stored filter is a record around a tree. Newer records have the tree as a document of its own;
older ones have a flat list of conditions and the name of the connective that joins them. A
document counts more than a list, whatever the list holds, unless it is null.
-/

namespace FilterLang

/-- A condition of an older record. -/
structure FlatCondition where
  fieldName : String
  operator : String
  value : String
  deriving Repr, DecidableEq

namespace FlatCondition

/-- How a condition of an older record is decoded. -/
def layout : Json.Layout FlatCondition where
  name := "LegacyCondition"
  fields := ["field_name", "operator", "value"]
  required := ["field_name", "operator", "value"]
  initial := ⟨"", "", ""⟩
  put c key v := do
    let s ← v.asString
    match key with
    | "field_name" => return { c with fieldName := s }
    | "operator" => return { c with operator := s }
    | _ => return { c with value := s }

/-- The document of a condition. -/
def toJson (c : FlatCondition) : Json :=
  .obj [("field_name", .str c.fieldName), ("operator", .str c.operator), ("value", .str c.value)]

/-- The condition of a tree, if the operator is a keyword. -/
def toTree (c : FlatCondition) : Except TreeFault Tree :=
  match Operator.ofKeyword? c.operator with
  | some op => .ok (.condition ⟨c.fieldName, op, c.value⟩)
  | none => .error (.unknownOperator c.operator c.fieldName)

end FlatCondition

/-- A filter as it is stored. -/
structure Record where
  id : Option String
  name : Option String
  sourceType : Option String
  isInverse : Bool
  conditionTree : Option Json
  conditions : Option (List FlatCondition)
  logicalOperator : Option String
  deriving Repr

namespace Record

/-- The record without any content. -/
def empty : Record := ⟨none, none, none, false, none, none, none⟩

/-- How a record is decoded. Every member may be absent. -/
def layout : Json.Layout Record where
  name := "FilterRecord"
  fields := ["id", "name", "source_type", "is_inverse", "condition_tree", "conditions",
    "logical_operator"]
  required := []
  initial := empty
  put r key v := do
    match key with
    | "id" => return { r with id := ← v.asOption Json.asString }
    | "name" => return { r with name := ← v.asOption Json.asString }
    | "source_type" => return { r with sourceType := ← v.asOption Json.asString }
    | "is_inverse" => return { r with isInverse := ← v.asBool }
    | "condition_tree" => return { r with conditionTree := ← v.asOption Json.asIs }
    | "conditions" =>
      let conditions := Json.asList (FlatCondition.layout.decode Json.convention)
      return { r with conditions := ← v.asOption conditions }
    | _ => return { r with logicalOperator := ← v.asOption Json.asString }

/-- The record that a value describes. -/
def ofJson (v : Json) : Except Json.Mismatch Record := layout.decode Json.convention v

/-- The document of a record, without the members that are absent. -/
def toJson (r : Record) : Json :=
  let text (key : String) (s : Option String) : List (String × Json) :=
    s.toList.map fun s ↦ (key, .str s)
  .obj (text "id" r.id ++ text "name" r.name ++ text "source_type" r.sourceType ++
    [("is_inverse", .bool r.isInverse)] ++
    (r.conditionTree.toList.map fun v ↦ ("condition_tree", v)) ++
    (r.conditions.toList.map fun cs ↦ ("conditions", .arr (cs.map FlatCondition.toJson))) ++
    text "logical_operator" r.logicalOperator)

/-- Whether a document is a record rather than a tree: it has a member that only records have. -/
def looksLike (v : Json) : Bool :=
  (v.get? "condition_tree").isSome || (v.get? "conditions").isSome

/-- The connective of an older record. Without a name, or with a blank one, it is `AND`. -/
def connective (r : Record) : Except TreeFault Connective :=
  let name := Text.trimmed (r.logicalOperator.getD "")
  if name == "" then .ok .and
  else
    match Connective.ofName? name with
    | some c => .ok c
    | none => .error (.unknownConnective name)

/-- The group of a flat list of conditions. -/
def flatTree (r : Record) (conditions : List FlatCondition) : Except TreeFault Tree := do
  if conditions.isEmpty then .error .emptyConditions
  let c ← r.connective
  let children ← conditions.mapM FlatCondition.toTree
  return .group c children

/-- The document of a tree in a record. Null stands for none. -/
def document? (r : Record) : Option Json := r.conditionTree.filter fun v ↦ !(v matches .null)

theorem document?_eq_some_iff {r : Record} {v : Json} :
    r.document? = some v ↔ r.conditionTree = some v ∧ v ≠ .null := by
  rw [document?, Option.filter_eq_some_iff]
  cases v <;> simp

theorem document?_eq_none_iff {r : Record} :
    r.document? = none ↔ r.conditionTree = none ∨ r.conditionTree = some .null := by
  rw [document?]
  rcases r.conditionTree with _ | _ | _ | _ | _ | _ | _ | _ <;> simp [Option.filter]

/-- The tree of a record. -/
def tree (r : Record) : Except LoadError Tree :=
  match r.document?, r.conditions with
  | some v, _ => Tree.ofDocument v
  | none, some conditions => (r.flatTree conditions).mapError .tree
  | none, none => .error (.tree .noConditions)

end Record

/-- The tree of the text of any stored form: a tree document or a record. -/
def Tree.load (text : String) : Except LoadError Tree :=
  match Json.readLenient text with
  | .error fault => .error (.text fault)
  | .ok v =>
    if Record.looksLike v then
      match Record.ofJson v with
      | .ok r => r.tree
      | .error m => .error (.shape m)
    else Tree.ofDocument v

end FilterLang
