import FilterLang.Json.Decode
import FilterLang.Json.Relaxed
import FilterLang.Tree

/-!
# Trees as JSON

A node is an object: a group has an `operator` and `children`, a condition a `field`, an `operator`
and perhaps a `value` and flags for the two modifiers. Which of the two it is follows from its
members alone; a member `type` is written for readers of the document and not asked for. What can
be read as a group is one.

A tree document is a node, an object with the node under `root`, or a string that holds the text of
such a document.
-/

namespace FilterLang

/-! ### What can be wrong -/

/-- Why something that was meant as a tree is none. -/
inductive TreeFault where
  | emptyGroup (c : Connective)
  | unknownOperator (word field : String)
  | emptyField
  | unknownConnective (name : String)
  | emptyConditions
  | noConditions
  deriving Repr, DecidableEq

/-- The words for a fault. -/
def TreeFault.message (f : TreeFault) : String :=
  "Invalid condition tree: " ++
    match f with
    | emptyGroup c => c.keyword ++ " group has no children"
    | unknownOperator word field => "Unknown operator '" ++ word ++ "' on field '" ++ field ++ "'"
    | emptyField => "Condition has an empty field name"
    | unknownConnective name =>
      "Unknown logical operator '" ++ name ++ "'. Valid operators are: AND, OR"
    | emptyConditions => "Legacy filter has an empty conditions list"
    | noConditions => "Filter record has neither condition_tree nor conditions"

/-- Why a value is not a node. -/
inductive NodeFault where
  /-- The value has the members of neither a group nor a condition. -/
  | noNode
  /-- The value has the members of a node but does not make sense as one. -/
  | invalid (f : TreeFault)
  deriving Repr, DecidableEq

/-- The words for a fault. -/
def NodeFault.message : NodeFault → String
  | noNode => "data did not match any variant of untagged enum NodeRecord"
  | invalid f => f.message

/-- Why a document has no tree. -/
inductive LoadError where
  /-- The document is not JSON. -/
  | text (fault : Json.ReadFault)
  /-- A record has a member of the wrong kind. -/
  | shape (m : Json.Mismatch)
  /-- The value in the place of a node is none. -/
  | node (fault : NodeFault)
  /-- A record does not describe a tree. -/
  | tree (fault : TreeFault)
  deriving Repr

namespace Tree

/-! ### Writing -/

mutual

/-- The document of a node. -/
def toJson : Tree → Json
  | condition c =>
    .obj [("type", .str "condition"), ("field", .str c.field),
      ("operator", .str c.operator.keyword), ("value", .str c.value)]
  | group connective children =>
    .obj [("type", .str "group"), ("operator", .str connective.keyword),
      ("children", .arr (toJsonAll children))]

/-- The documents of a list of nodes. -/
def toJsonAll : List Tree → List Json
  | [] => []
  | t :: ts => toJson t :: toJsonAll ts

end

/-- The document of a tree with the node under `root`. -/
def envelope (t : Tree) : Json := .obj [("root", t.toJson)]

/-! ### Reading -/

/-- The connective of a group: one of its spellings, or an object with that spelling as its only key
and null as its value. -/
def connectiveOf : Json → Option Connective
  | .str name => Connective.ofSpelling? name
  | .obj [(name, .null)] => Connective.ofSpelling? name
  | _ => none

/-- A string that may be absent. -/
def stringOr (default : String) : Option Json → Option String
  | none => some default
  | some (.str s) => some s
  | some _ => none

/-- A flag that may be absent. -/
def flagOf : Option Json → Option Bool
  | none => some false
  | some (.bool b) => some b
  | some _ => none

/-- The field, the operator word, the value and the flags of a condition, if the members are those
of one. -/
def conditionParts (members : List (String × Json)) :
    Option (String × String × String × Bool × Bool) := do
  let .str field ← Json.member? members "field" | none
  let .str word ← Json.member? members "operator" | none
  let value ← stringOr "" (Json.member? members "value")
  let negate ← flagOf (Json.member? members "negate")
  let caseSensitive ← flagOf (Json.member? members "case_sensitive")
  return (field, word, value, negate, caseSensitive)

/-- The condition with the given members. A modifier is set if the keyword or the flag sets it. -/
def conditionOf (members : List (String × Json)) : Except NodeFault Tree :=
  match conditionParts members with
  | none => .error .noNode
  | some (field, word, value, negate, caseSensitive) =>
    match Operator.ofKeyword? word with
    | none => .error (.invalid (.unknownOperator word field))
    | some op =>
      if field == "" then .error (.invalid .emptyField)
      else
        .ok (condition ⟨field,
          ⟨op.comparison, negate || op.negate, caseSensitive || op.caseSensitive⟩, value⟩)

/-- The node with the given members, of which the children have been read if they can be. -/
def ofMembers (members : List (String × Json)) (children : Option (List Tree)) :
    Except NodeFault Tree :=
  match (Json.member? members "operator").bind connectiveOf, children with
  | some connective, some [] => .error (.invalid (.emptyGroup connective))
  | some connective, some ts => .ok (group connective ts)
  | _, _ => conditionOf members

mutual

/-- The node that a value describes. -/
def ofJson : Json → Except NodeFault Tree
  | .obj members => ofMembers members (childrenAmong members)
  | _ => .error .noNode

/-- The children among the members of an object, if there is an array of nodes. -/
def childrenAmong : List (String × Json) → Option (List Tree)
  | [] => none
  | (key, v) :: members => if key == "children" then childrenOf v else childrenAmong members

/-- The nodes of an array, if all of its items are nodes. -/
def childrenOf : Json → Option (List Tree)
  | .arr items => ofJsonAll items
  | _ => none

/-- The nodes that values describe, if all of them do. -/
def ofJsonAll : List Json → Option (List Tree)
  | [] => some []
  | v :: vs =>
    match ofJson v, ofJsonAll vs with
    | .ok t, some ts => some (t :: ts)
    | _, _ => none

end

/-- The tree of a document that may be wrapped in strings at most `fuel` times. -/
def ofDocumentWithin : Nat → Json → Except LoadError Tree
  | fuel, .str s =>
    match fuel with
    | 0 => .error (.text .unfinished)
    | fuel + 1 =>
      match Json.readLenient s with
      | .ok v => ofDocumentWithin fuel v
      | .error fault => .error (.text fault)
  | _, v => (ofJson ((v.get? "root").getD v)).mapError .node

/-- A bound for the number of strings that a value is wrapped in: the text of a string is shorter
than the text that it was read from. -/
def wrappings : Json → Nat
  | .str s => s.length + 1
  | _ => 0

/-- The tree of a document. -/
def ofDocument (v : Json) : Except LoadError Tree := ofDocumentWithin (wrappings v) v

/-- The tree of the text of a document. -/
def ofText (text : String) : Except LoadError Tree :=
  match Json.readLenient text with
  | .ok v => ofDocument v
  | .error fault => .error (.text fault)

end Tree

end FilterLang
