import FilterLang.Proofs.Groups
import FilterLang.Tree.Document
import Mathlib.Data.List.Forall2

/-!
# Which documents are nodes

`Describes v t` says that the JSON value `v` is a document of the node `t`: an object with the
members of a group, whose children are documents of nodes in their turn, or with the members of a
condition. It speaks of members by their keys and of words of the language, and not of the order in
which a decoder tries things.

The decoder tries a group first and falls back to a condition. What it falls back from does not
matter (`ofMembers_eq_ok_iff`): the keywords of operators are none of the spellings of connectives,
so an object that is not quite a group is no condition either. Apart from one notation for
connectives, an object in place of a word, the decoder and `Describes` agree
(`ofJson_eq_ok_iff_describes`).
-/

namespace FilterLang

/-! ### Words -/

theorem Connective.ofSpelling?_eq_some_iff {name : String} {k : Connective} :
    ofSpelling? name = some k ↔ name ∈ k.spellings := by
  have hapart : ∀ n ∈ Connective.or.spellings, n ∉ Connective.and.spellings := by decide
  unfold ofSpelling?
  by_cases hand : name ∈ Connective.and.spellings
  · have hor : name ∉ Connective.or.spellings := fun h ↦ hapart name h hand
    cases k <;> simp [hand, hor]
  · by_cases hor : name ∈ Connective.or.spellings <;> cases k <;> simp [hand, hor]

/-- No keyword of an operator is a spelling of a connective. -/
theorem Operator.ofSpelling?_keyword (o : Operator) : Connective.ofSpelling? o.keyword = none := by
  obtain ⟨c, n, s⟩ := o
  cases c <;> cases n <;> cases s <;> decide

theorem Operator.ofKeyword?_eq_some_iff {word : String} {o : Operator} :
    ofKeyword? word = some o ↔ word = o.keyword := by
  constructor
  · exact fun h ↦ (keyword_of_ofKeyword? h).symm
  · rintro rfl
    exact ofKeyword?_keyword o

/-! ### Members -/

namespace Json

variable {key k : String} {v : Json} {ms : List (String × Json)}

theorem member?_cons : member? ((k, v) :: ms) key = if key = k then some v else member? ms key := by
  unfold member?
  rw [List.lookup_cons]
  by_cases h : key = k
  · simp [h]
  · rw [beq_false_of_ne h, if_neg h]

/-- Whether the members of every object in a value, at any depth, have a property. -/
inductive EveryObject (p : List (String × Json) → Prop) : Json → Prop
  | scalar {v : Json} (harr : ∀ vs, v ≠ .arr vs) (hobj : ∀ ms, v ≠ .obj ms) : EveryObject p v
  | arr {vs : List Json} (h : ∀ v ∈ vs, EveryObject p v) : EveryObject p (.arr vs)
  | obj {ms : List (String × Json)} (hp : p ms) (h : ∀ m ∈ ms, EveryObject p m.2) :
      EveryObject p (.obj ms)

/-- Whether no member `operator` in a value, at any depth, is an object. -/
def HasPlainOperators (v : Json) : Prop :=
  v.EveryObject fun ms ↦ ∀ ns, member? ms "operator" ≠ some (.obj ns)

theorem hasPlainOperators_arr {vs : List Json} :
    (arr vs).HasPlainOperators ↔ ∀ v ∈ vs, v.HasPlainOperators := by
  constructor
  · rintro (⟨harr, -⟩ | h | -)
    · exact absurd rfl (harr vs)
    · exact h
  · exact .arr

theorem hasPlainOperators_obj : (obj ms).HasPlainOperators ↔
    (∀ ns, member? ms "operator" ≠ some (.obj ns)) ∧ ∀ m ∈ ms, m.2.HasPlainOperators := by
  constructor
  · rintro (⟨-, hobj⟩ | - | ⟨hp, h⟩)
    · exact absurd rfl (hobj ms)
    · exact ⟨hp, h⟩
  · rintro ⟨hp, h⟩
    exact .obj hp h

theorem mem_of_member?_eq_some (h : member? ms key = some v) : (key, v) ∈ ms := by
  induction ms with
  | nil => simp [member?] at h
  | cons m ms ih =>
    obtain ⟨k, w⟩ := m
    rw [member?_cons] at h
    split at h
    · simp_all
    · exact List.mem_cons_of_mem _ (ih h)

end Json

namespace Tree

open Json (member?)

variable {ms ns : List (String × Json)} {t : Tree} {ts : List Tree} {v : Json}
  {children : Option (List Tree)}

/-! ### Documents of nodes -/

/-- Whether a value is a document of a node. A group has a connective in one of its spellings and an
array of children, which are documents of nodes and of which there is at least one. A condition has
a field that is not empty, the keyword of an operator, and perhaps a value and flags for the
modifiers; a modifier is set if the keyword or its flag sets it. Other members do not matter. -/
inductive Describes : Json → Tree → Prop
  | group {ms : List (String × Json)} {name : String} {k : Connective} {items : List Json}
      {ts : List Tree} (hop : member? ms "operator" = some (.str name)) (hname : name ∈ k.spellings)
      (hchildren : member? ms "children" = some (.arr items)) (hne : items ≠ [])
      (hall : List.Forall₂ Describes items ts) : Describes (.obj ms) (.group k ts)
  | condition {ms : List (String × Json)} {field : String} {op : Operator} {value : Option String}
      {negate caseSensitive : Option Bool} (hfield : member? ms "field" = some (.str field))
      (hne : field ≠ "") (hop : member? ms "operator" = some (.str op.keyword))
      (hvalue : member? ms "value" = value.map .str)
      (hnegate : member? ms "negate" = negate.map .bool)
      (hcase : member? ms "case_sensitive" = caseSensitive.map .bool) :
      Describes (.obj ms) (.condition ⟨field, ⟨op.comparison, negate.getD false || op.negate,
        caseSensitive.getD false || op.caseSensitive⟩, value.getD ""⟩)

/-- The keys of the members that a node is decoded from. -/
def nodeKeys : List String :=
  ["operator", "children", "field", "value", "negate", "case_sensitive"]

/-! ### Parts of a condition -/

theorem stringOr_eq_some_iff {o : Option Json} {s : String} :
    stringOr "" o = some s ↔ ∃ value : Option String, o = value.map .str ∧ s = value.getD "" := by
  constructor
  · intro h
    match o, h with
    | none, h => exact ⟨none, rfl, (Option.some.inj h).symm⟩
    | some (.str u), h => exact ⟨some u, rfl, (Option.some.inj h).symm⟩
  · rintro ⟨_ | u, rfl, rfl⟩ <;> rfl

theorem flagOf_eq_some_iff {o : Option Json} {b : Bool} :
    flagOf o = some b ↔ ∃ flag : Option Bool, o = flag.map .bool ∧ b = flag.getD false := by
  constructor
  · intro h
    match o, h with
    | none, h => exact ⟨none, rfl, (Option.some.inj h).symm⟩
    | some (.bool c), h => exact ⟨some c, rfl, (Option.some.inj h).symm⟩
  · rintro ⟨_ | c, rfl, rfl⟩ <;> rfl

/-- The parts of a condition are there exactly if each of its members is of its kind. -/
theorem conditionParts_eq_some_iff {field word value : String} {negate caseSensitive : Bool} :
    conditionParts ms = some (field, word, value, negate, caseSensitive) ↔
      member? ms "field" = some (.str field) ∧ member? ms "operator" = some (.str word) ∧
      stringOr "" (member? ms "value") = some value ∧
      flagOf (member? ms "negate") = some negate ∧
      flagOf (member? ms "case_sensitive") = some caseSensitive := by
  unfold conditionParts
  generalize stringOr "" (member? ms "value") = v, flagOf (member? ms "negate") = n,
    flagOf (member? ms "case_sensitive") = s
  cases member? ms "field" with
  | none => simp
  | some f =>
    cases f with
    | str f =>
      cases member? ms "operator" with
      | none => simp
      | some w =>
        cases w with
        | str w => cases v <;> cases n <;> cases s <;> simp
        | _ => simp
    | _ => simp

/-- A condition is decoded exactly from the members of one. -/
theorem conditionOf_eq_ok_iff : conditionOf ms = .ok t ↔ ∃ field op value negate caseSensitive,
    member? ms "field" = some (.str field) ∧ field ≠ "" ∧
    member? ms "operator" = some (.str (Operator.keyword op)) ∧
    member? ms "value" = Option.map Json.str value ∧
    member? ms "negate" = Option.map Json.bool negate ∧
    member? ms "case_sensitive" = Option.map Json.bool caseSensitive ∧
    t = .condition ⟨field, ⟨op.comparison, negate.getD false || op.negate,
      caseSensitive.getD false || op.caseSensitive⟩, value.getD ""⟩ := by
  unfold conditionOf
  constructor
  · intro h
    split at h
    · simp at h
    · rename_i field word v n s hparts
      obtain ⟨hfield, hop, hv, hn, hs⟩ := conditionParts_eq_some_iff.1 hparts
      obtain ⟨value, hvalue, rfl⟩ := stringOr_eq_some_iff.1 hv
      obtain ⟨negate, hnegate, rfl⟩ := flagOf_eq_some_iff.1 hn
      obtain ⟨caseSensitive, hcase, rfl⟩ := flagOf_eq_some_iff.1 hs
      split at h
      · simp at h
      · rename_i op hword
        obtain rfl := Operator.ofKeyword?_eq_some_iff.1 hword
        split at h
        · simp at h
        · rename_i hne
          exact ⟨field, op, value, negate, caseSensitive, hfield, by simpa using hne, hop, hvalue,
            hnegate, hcase, (Except.ok.inj h).symm⟩
  · rintro ⟨field, op, value, negate, caseSensitive, hfield, hne, hop, hvalue, hnegate, hcase, rfl⟩
    have hparts : conditionParts ms = some (field, op.keyword, value.getD "", negate.getD false,
        caseSensitive.getD false) :=
      conditionParts_eq_some_iff.2 ⟨hfield, hop, stringOr_eq_some_iff.2 ⟨value, hvalue, rfl⟩,
        flagOf_eq_some_iff.2 ⟨negate, hnegate, rfl⟩, flagOf_eq_some_iff.2 ⟨_, hcase, rfl⟩⟩
    rw [hparts]
    simp [Operator.ofKeyword?_keyword, hne]

/-! ### Groups -/

theorem childrenAmong_eq (ms : List (String × Json)) :
    childrenAmong ms = (member? ms "children").bind childrenOf := by
  induction ms with
  | nil => rfl
  | cons m ms ih =>
    obtain ⟨key, v⟩ := m
    rw [childrenAmong, Json.member?_cons]
    -- The lookup compares the keys the other way around.
    by_cases h : key = "children"
    · simp [h]
    · rw [if_neg (by simpa using h), if_neg (Ne.symm h), ih]

/-- A list of values is decoded exactly if each of them is. -/
theorem ofJsonAll_eq_some_iff {vs : List Json} :
    ofJsonAll vs = some ts ↔ List.Forall₂ (fun v t ↦ ofJson v = .ok t) vs ts := by
  induction vs generalizing ts with
  | nil => simp [ofJsonAll, eq_comm]
  | cons v vs ih =>
    rw [ofJsonAll, List.forall₂_cons_left_iff]
    constructor
    · intro h
      split at h
      · rename_i t us ht hus
        exact ⟨t, us, ht, ih.1 hus, (Option.some.inj h).symm⟩
      · simp at h
    · rintro ⟨t, us, ht, hus, rfl⟩
      rw [ht, ih.2 hus]

theorem childrenAmong_eq_some_iff : childrenAmong ms = some ts ↔
    ∃ items, member? ms "children" = some (.arr items) ∧
      List.Forall₂ (fun v t ↦ ofJson v = .ok t) items ts := by
  rw [childrenAmong_eq, Option.bind_eq_some_iff]
  constructor
  · rintro ⟨v, hv, hts⟩
    cases v with
    | arr items => exact ⟨items, hv, ofJsonAll_eq_some_iff.1 hts⟩
    | _ => simp [childrenOf] at hts
  · rintro ⟨items, hitems, hts⟩
    exact ⟨.arr items, hitems, ofJsonAll_eq_some_iff.2 hts⟩

/-- What has a connective and children is a group, and otherwise nothing but a condition can be
decoded. That a group was tried before is of no consequence for a condition. -/
theorem ofMembers_eq_ok_iff : ofMembers ms children = .ok t ↔
    (∃ k ts, (member? ms "operator").bind connectiveOf = some k ∧ children = some ts ∧ ts ≠ [] ∧
      t = .group k ts) ∨ conditionOf ms = .ok t := by
  have hcondition {k : Connective} (hk : (member? ms "operator").bind connectiveOf = some k) :
      conditionOf ms ≠ .ok t := by
    intro h
    obtain ⟨-, op, -, -, -, -, -, hop, -⟩ := conditionOf_eq_ok_iff.1 h
    rw [hop, Option.bind_some, connectiveOf, op.ofSpelling?_keyword] at hk
    simp at hk
  unfold ofMembers
  cases hk : (member? ms "operator").bind connectiveOf with
  | none => simp
  | some k =>
    have hno := hcondition hk
    match children with
    | none => simp
    | some [] => simp [hno]
    | some (u :: us) => simp [hno, eq_comm]

theorem conditionOf_ne_group (k : Connective) (ts : List Tree) :
    conditionOf ms ≠ .ok (.group k ts) := by
  intro h
  obtain ⟨_, _, _, _, _, _, _, _, _, _, _, ht⟩ := conditionOf_eq_ok_iff.1 h
  simp at ht

/-- A group is decoded from a connective and an array of children, which are decoded one by one. -/
theorem ofJson_eq_group_iff {k : Connective} : ofJson v = .ok (.group k ts) ↔
    ∃ ms items, v = .obj ms ∧ (member? ms "operator").bind connectiveOf = some k ∧
      member? ms "children" = some (.arr items) ∧ ts ≠ [] ∧
      List.Forall₂ (fun v t ↦ ofJson v = .ok t) items ts := by
  cases v with
  | obj ms =>
    rw [ofJson, ofMembers_eq_ok_iff]
    constructor
    · rintro (⟨k', ts', hk, hts, hne, ht⟩ | h)
      · obtain ⟨rfl, rfl⟩ := Tree.group.inj ht
        obtain ⟨items, hitems, hall⟩ := childrenAmong_eq_some_iff.1 hts
        exact ⟨ms, items, rfl, hk, hitems, hne, hall⟩
      · exact absurd h (conditionOf_ne_group k ts)
    · rintro ⟨_, items, ⟨⟩, hk, hitems, hne, hall⟩
      exact .inl ⟨k, ts, hk, childrenAmong_eq_some_iff.2 ⟨items, hitems, hall⟩, hne, rfl⟩
  | _ => simp [ofJson]

/-- A condition is decoded from its members, whatever else stands beside them. -/
theorem ofJson_eq_condition_iff {c : Condition} : ofJson v = .ok (.condition c) ↔
    ∃ ms, v = .obj ms ∧ conditionOf ms = .ok (.condition c) := by
  cases v with
  | obj ms => simp [ofJson, ofMembers_eq_ok_iff]
  | _ => simp [ofJson]

/-- A connective that is no object is a word, one of the connective's spellings. -/
theorem exists_name_of_connective {k : Connective}
    (hplain : ∀ ns, member? ms "operator" ≠ some (.obj ns))
    (hk : (member? ms "operator").bind connectiveOf = some k) :
    ∃ name, member? ms "operator" = some (.str name) ∧ name ∈ k.spellings := by
  obtain ⟨w, hw, hk⟩ := Option.bind_eq_some_iff.1 hk
  cases w with
  | str name => exact ⟨name, hw, Connective.ofSpelling?_eq_some_iff.1 hk⟩
  | obj ns => exact absurd hw (hplain ns)
  | _ => simp [connectiveOf] at hk

/-! ### The decoder and the documents -/

/-- What relates the items of two lists, one by one, may use that they are items of the lists. -/
theorem forall₂_of_mem {α β : Type} {R S : α → β → Prop} {as : List α} {bs : List β}
    (h : List.Forall₂ R as bs) (hRS : ∀ a ∈ as, ∀ b ∈ bs, R a b → S a b) :
    List.Forall₂ S as bs := by
  rw [List.forall₂_iff_zip] at h ⊢
  refine ⟨h.1, fun hab ↦ ?_⟩
  obtain ⟨ha, hb⟩ := List.of_mem_zip hab
  exact hRS _ ha _ hb (h.2 hab)

theorem exists_of_mem_right {α β : Type} {R : α → β → Prop} {as : List α} {bs : List β} {b : β}
    (h : List.Forall₂ R as bs) (hb : b ∈ bs) : ∃ a ∈ as, R a b := by
  induction h with
  | nil => simp at hb
  | @cons a b' as bs hR _ ih =>
    rcases List.mem_cons.1 hb with rfl | hb
    · exact ⟨a, List.mem_cons_self, hR⟩
    · obtain ⟨a', ha', hR'⟩ := ih hb
      exact ⟨a', List.mem_cons_of_mem _ ha', hR'⟩

/-- A document is decoded as its node. -/
theorem ofJson_of_describes (h : Describes v t) : ofJson v = .ok t := by
  induction t using tree_induction generalizing v with
  | condition c =>
    cases h with
    | condition hfield hne hop hvalue hnegate hcase =>
      exact ofJson_eq_condition_iff.2 ⟨_, rfl, conditionOf_eq_ok_iff.2
        ⟨_, _, _, _, _, hfield, hne, hop, hvalue, hnegate, hcase, rfl⟩⟩
  | group k ts ih =>
    cases h with
    | @group ms name _ items _ hop hname hchildren hne hall =>
      have hk : (member? ms "operator").bind connectiveOf = some k := by
        rw [hop, Option.bind_some, connectiveOf, Connective.ofSpelling?_eq_some_iff.2 hname]
      have hts : ts ≠ [] := by
        rintro rfl
        exact hne (List.forall₂_nil_right_iff.1 hall)
      exact ofJson_eq_group_iff.2 ⟨ms, items, rfl, hk, hchildren, hts,
        forall₂_of_mem hall fun v _ t ht hv ↦ ih t ht hv⟩

/-- What is decoded is a document of the node, if connectives are written as words. -/
theorem describes_of_ofJson (hv : v.HasPlainOperators) (h : ofJson v = .ok t) :
    Describes v t := by
  induction t using tree_induction generalizing v with
  | condition c =>
    obtain ⟨ms, rfl, hc⟩ := ofJson_eq_condition_iff.1 h
    obtain ⟨field, op, value, negate, sensitive, hfield, hne, hop, hvalue, hnegate, hcase, ht⟩ :=
      conditionOf_eq_ok_iff.1 hc
    obtain rfl := Tree.condition.inj ht
    exact .condition hfield hne hop hvalue hnegate hcase
  | group k ts ih =>
    obtain ⟨ms, items, rfl, hk, hchildren, hne, hall⟩ := ofJson_eq_group_iff.1 h
    obtain ⟨hplain, hinner⟩ := Json.hasPlainOperators_obj.1 hv
    obtain ⟨name, hop, hname⟩ := exists_name_of_connective hplain hk
    have hitems : ∀ v ∈ items, v.HasPlainOperators :=
      Json.hasPlainOperators_arr.1 (hinner _ (Json.mem_of_member?_eq_some hchildren))
    have hne' : items ≠ [] := by
      rintro rfl
      exact hne (List.forall₂_nil_left_iff.1 hall)
    exact .group hop hname hchildren hne'
      (forall₂_of_mem hall fun v hv t ht h ↦ ih t ht (hitems v hv) h)

/-- A node that was decoded has no group without children and no condition without a field. -/
theorem wellFormed_of_ofJson (h : ofJson v = .ok t) :
    t.EveryGroup (· ≠ []) ∧ ∀ c ∈ t.leaves, c.field ≠ "" := by
  induction t using tree_induction generalizing v with
  | condition c =>
    obtain ⟨ms, rfl, hc⟩ := ofJson_eq_condition_iff.1 h
    obtain ⟨_, _, _, _, _, -, hne, -, -, -, -, ht⟩ := conditionOf_eq_ok_iff.1 hc
    obtain rfl := Tree.condition.inj ht
    exact ⟨.condition _, by simpa [leaves] using hne⟩
  | group k ts ih =>
    obtain ⟨ms, items, rfl, hk, hchildren, hne, hall⟩ := ofJson_eq_group_iff.1 h
    have hts : ∀ t ∈ ts, t.EveryGroup (· ≠ []) ∧ ∀ c ∈ t.leaves, c.field ≠ "" := by
      intro t ht
      obtain ⟨v, -, hv⟩ := exists_of_mem_right hall ht
      exact ih t ht hv
    refine ⟨.group hne fun t ht ↦ (hts t ht).1, fun c hc ↦ ?_⟩
    rw [leaves, leavesAll_eq] at hc
    obtain ⟨t, ht, hc⟩ := List.mem_flatMap.1 hc
    exact (hts t ht).2 c hc

/-! ### The main statement -/

/-- Members that are no part of a node do not matter. -/
theorem ofJson_congr (h : ∀ key ∈ nodeKeys, member? ms key = member? ns key) :
    ofJson (.obj ms) = ofJson (.obj ns) := by
  simp only [nodeKeys, List.forall_mem_cons] at h
  obtain ⟨hop, hchildren, hfield, hvalue, hnegate, hcase, -⟩ := h
  rw [ofJson, ofJson, childrenAmong_eq, childrenAmong_eq, hchildren]
  unfold ofMembers conditionOf conditionParts
  rw [hop, hfield, hvalue, hnegate, hcase]

/-- A value in which no `operator` is an object is decoded as a node exactly if it is a document of
that node. No value is a document of both a group and a condition, and members other than those of
nodes do not matter. No node that is decoded has a group without children or a condition with an
empty field. -/
theorem ofJson_eq_ok_iff_describes (v : Json) (hv : v.HasPlainOperators) :
    (∀ t, ofJson v = .ok t ↔ Describes v t) ∧
    (∀ k ts c, ¬ (Describes v (.group k ts) ∧ Describes v (.condition c))) ∧
    (∀ ms ns, v = .obj ms → (∀ key ∈ nodeKeys, member? ms key = member? ns key) →
      ofJson (.obj ns) = ofJson v) ∧
    ∀ t, ofJson v = .ok t → t.EveryGroup (· ≠ []) ∧ ∀ c ∈ t.leaves, c.field ≠ "" := by
  refine ⟨fun t ↦ ⟨describes_of_ofJson hv, ofJson_of_describes⟩, ?_, ?_, fun t h ↦
    wellFormed_of_ofJson h⟩
  · rintro k ts c ⟨hgroup, hcondition⟩
    have hsame := (ofJson_of_describes hgroup).symm.trans (ofJson_of_describes hcondition)
    simp at hsame
  · rintro ms ns rfl h
    exact (ofJson_congr h).symm

/-- A group in one of the older spellings, of one condition with a flag and no value. What both call
their `type` is not asked for. -/
theorem ofJson_group_of_spelling :
    let child := [("field", .str "title"), ("type", .null), ("operator", .str "not_contains"),
      ("case_sensitive", .bool true)]
    let v : Json := .obj [("type", .str "condition"), ("operator", .str "any"),
      ("children", .arr [.obj child])]
    v.HasPlainOperators ∧
      ofJson v = .ok (.group .or [.condition ⟨"title", ⟨.contains, true, true⟩, ""⟩]) := by
  intro child v
  have hscalar (u : Json) (harr : ∀ vs, u ≠ .arr vs) (hobj : ∀ ms, u ≠ .obj ms) :
      u.HasPlainOperators := .scalar harr hobj
  have hplain : v.HasPlainOperators := by
    simp [v, child, Json.hasPlainOperators_obj, Json.hasPlainOperators_arr, Json.member?_cons,
      hscalar]
  have hcondition := @Describes.condition child "title" ⟨.contains, true, false⟩ none none
    (some true) rfl (by decide) rfl rfl rfl rfl
  have hgroup : Describes v (.group .or [.condition ⟨"title", ⟨.contains, true, true⟩, ""⟩]) :=
    .group rfl (by decide) rfl (by simp) (.cons hcondition .nil)
  exact ⟨hplain, ((ofJson_eq_ok_iff_describes v hplain).1 _).2 hgroup⟩

end Tree
end FilterLang
