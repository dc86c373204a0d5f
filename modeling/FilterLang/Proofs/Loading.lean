import FilterLang.Proofs.Stored

/-!
# Loading and loading again

A tree that was loaded is a node that was decoded, or it was made of the flat conditions of an older
record (`Tree.load_cases`). Neither has a group without children. A decoded node has a field in
every condition too, so it is loaded again from whatever document it is stored as. The conditions of
an older record are not asked for their fields: one that names none becomes a condition of the tree,
and then every document of that tree is refused (`Tree.reload_of_load`).
-/

namespace FilterLang

open Json (member?)

variable {text : String} {v : Json} {t : Tree} {ts : List Tree}

/-- A list of results is there exactly if each of them is. -/
theorem mapM_eq_ok_iff {α β ε : Type} {f : α → Except ε β} {as : List α} {bs : List β} :
    as.mapM f = .ok bs ↔ List.Forall₂ (fun a b ↦ f a = .ok b) as bs := by
  induction as generalizing bs with
  | nil => simp [pure, Except.pure, eq_comm]
  | cons a as ih =>
    rw [List.mapM_cons, List.forall₂_cons_left_iff]
    cases ha : f a with
    | error e => simp [bind, Except.bind]
    | ok b =>
      cases has : as.mapM f with
      | error e => simp [bind, Except.bind, ← ih, has]
      | ok bs' => simp [bind, Except.bind, pure, Except.pure, ← ih, has, eq_comm]

theorem eq_ok_of_toOption {α ε : Type} {e : Except ε α} {a : α} (h : e.toOption = some a) :
    e = .ok a := by
  cases e with
  | error e => simp [Except.toOption] at h
  | ok b => rw [Option.some.inj h]

theorem mapError_eq_ok_iff {α ε ε' : Type} {f : ε → ε'} {e : Except ε α} {a : α} :
    e.mapError f = .ok a ↔ e = .ok a := by
  cases e <;> simp [Except.mapError]

theorem bind_eq_ok_iff {α β ε : Type} {x : Except ε α} {g : α → Except ε β} {b : β} :
    x >>= g = .ok b ↔ ∃ a, x = .ok a ∧ g a = .ok b := by
  cases x <;> simp [bind, Except.bind]

/-! ### Decoding -/

/-- A fold of steps that can fail keeps what each step keeps. -/
theorem foldlM_keeps {α σ ε : Type} {P : σ → Prop} {f : σ → α → Except ε σ}
    (hstep : ∀ s a s', P s → f s a = .ok s' → P s') {as : List α} {s s' : σ} (hs : P s)
    (h : as.foldlM f s = .ok s') : P s' := by
  induction as generalizing s with
  | nil =>
    cases h
    exact hs
  | cons a as ih =>
    rw [List.foldlM_cons] at h
    obtain ⟨s₁, hf, h⟩ := bind_eq_ok_iff.1 h
    exact ih (hstep s a s₁ hs hf) h

/-- What is decoded has what the initial structure has and every field that is put keeps. -/
theorem Json.Layout.decode_keeps {σ : Type} {P : σ → Prop} {l : Json.Layout σ}
    {c : Json.Convention} {s : σ} (hinitial : P l.initial)
    (hput : ∀ s key v s', P s → l.put s key v = .ok s' → P s') (h : l.decode c v = .ok s) :
    P s := by
  unfold Json.Layout.decode at h
  split at h
  · obtain ⟨s', hfold, h⟩ := bind_eq_ok_iff.1 h
    split at h
    · cases h
    · cases h
      exact foldlM_keeps (fun s m s' ↦ hput s m.1 m.2 s') hinitial hfold
  · obtain ⟨s', hfold, h⟩ := bind_eq_ok_iff.1 h
    split at h
    · cases h
    · split at h
      · cases h
      · cases h
        exact foldlM_keeps (fun s m s' ↦ hput s m.1 m.2 s') hinitial hfold
  · cases h

/-! ### Flat conditions -/

theorem FlatCondition.toTree_eq_ok_iff {c : FlatCondition} : c.toTree = .ok t ↔
    ∃ op, Operator.ofKeyword? c.operator = some op ∧ t = .condition ⟨c.fieldName, op, c.value⟩ := by
  unfold toTree
  cases Operator.ofKeyword? c.operator <;> simp [eq_comm]

namespace Record

variable {r : Record} {cs : List FlatCondition}

/-- Whether a text is that of a record whose tree is made of flat conditions: it has these
conditions and no document of a tree. -/
structure IsFlat (r : Record) (cs : List FlatCondition) (text : String) : Prop where
  read : ∃ v, Json.readLenient text = .ok v ∧ looksLike v = true ∧ ofJson v = .ok r
  conditionTree : r.conditionTree = none
  conditions : r.conditions = some cs

/-- Whether a text is that of a record whose tree is made of flat conditions, one of which names no
field. -/
def IsNameless (text : String) : Prop :=
  ∃ r cs, IsFlat r cs text ∧ ∃ c ∈ cs, c.fieldName = ""

/-- A record is decoded without a document where null stands for one. -/
theorem conditionTree_ne_null_of_ofJson (h : ofJson v = .ok r) : r.conditionTree ≠ some .null := by
  refine Json.Layout.decode_keeps (P := fun r ↦ r.conditionTree ≠ some .null) ?initial ?put h
  case initial => rintro ⟨⟩
  case put =>
    intro s key v s' hs hput
    unfold layout at hput
    dsimp only at hput
    split at hput
    -- Only the member of the tree is put in its place, and null is put as none.
    case h_5 => cases v <;> cases hput <;> simp
    all_goals
      obtain ⟨_, -, hput⟩ := bind_eq_ok_iff.1 hput
      cases hput
      exact hs

theorem IsFlat.load_eq (h : IsFlat r cs text) :
    Tree.load text = (r.flatTree cs).mapError .tree := by
  obtain ⟨v, hread, hlooks, hr⟩ := h.read
  rw [Tree.load, hread]
  dsimp only
  rw [hlooks, if_pos rfl, hr]
  dsimp only
  rw [Record.tree, document?_eq_none_iff.2 (.inl h.conditionTree), h.conditions]

/-- The tree of flat conditions is the group of their conditions, in their order. -/
theorem flatTree_eq_ok_iff : r.flatTree cs = .ok t ↔ cs ≠ [] ∧ ∃ k ts, r.connective = .ok k ∧
    List.Forall₂ (fun c t ↦ c.toTree = .ok t) cs ts ∧ t = .group k ts := by
  unfold flatTree
  cases cs with
  | nil => simp [bind, Except.bind]
  | cons c cs =>
    cases r.connective with
    | error e => simp [bind, Except.bind]
    | ok k =>
      cases hts : (c :: cs).mapM FlatCondition.toTree with
      | error e => simp [bind, Except.bind, ← mapM_eq_ok_iff, hts]
      | ok us =>
        simp only [← mapM_eq_ok_iff, hts]
        simp [bind, Except.bind, pure, Except.pure, eq_comm]

/-- The conditions of the tree have the fields of the flat conditions. -/
theorem fields_leavesAll (h : List.Forall₂ (fun c t ↦ FlatCondition.toTree c = .ok t) cs ts) :
    (Tree.leavesAll ts).map Condition.field = cs.map FlatCondition.fieldName := by
  induction h with
  | nil => rfl
  | cons hc _ ih =>
    obtain ⟨op, -, rfl⟩ := FlatCondition.toTree_eq_ok_iff.1 hc
    rw [Tree.leavesAll, Tree.leaves, List.singleton_append, List.map_cons, List.map_cons, ih]

end Record

namespace Tree

/-! ### Where trees come from -/

/-- The tree of a document is a node that was decoded. The induction is on the strings that the
document is wrapped in. -/
theorem exists_ofJson_of_ofDocumentWithin {fuel : Nat} (h : ofDocumentWithin fuel v = .ok t) :
    ∃ node, ofJson node = .ok t := by
  induction fuel generalizing v with
  | zero =>
    unfold ofDocumentWithin at h
    split at h
    · simp at h
    · exact ⟨_, mapError_eq_ok_iff.1 h⟩
  | succ fuel ih =>
    unfold ofDocumentWithin at h
    split at h
    · dsimp only at h
      split at h
      · exact ih h
      · simp at h
    · exact ⟨_, mapError_eq_ok_iff.1 h⟩

/-- A tree that is loaded is a node that was decoded, or it is made of flat conditions. -/
theorem load_cases (h : load text = .ok t) :
    (∃ node, ofJson node = .ok t) ∨ ∃ r cs, Record.IsFlat r cs text ∧ r.flatTree cs = .ok t := by
  unfold load at h
  split at h
  · simp at h
  · rename_i v hread
    split at h
    · rename_i hlooks
      split at h
      · rename_i r hr
        unfold Record.tree at h
        split at h
        · exact .inl (exists_ofJson_of_ofDocumentWithin h)
        · rename_i cs hdocument hcs
          -- Null is decoded as the absence of a document.
          have htree := (Record.document?_eq_none_iff.1 hdocument).resolve_right
            (Record.conditionTree_ne_null_of_ofJson hr)
          exact .inr ⟨r, cs, ⟨⟨v, hread, hlooks, hr⟩, htree, hcs⟩, mapError_eq_ok_iff.1 h⟩
        · simp at h
      · simp at h
    · exact .inl (exists_ofJson_of_ofDocumentWithin h)

/-- No tree that is loaded has a group without children. -/
theorem everyGroup_of_load (h : load text = .ok t) : t.EveryGroup (· ≠ []) := by
  rcases load_cases h with ⟨node, hnode⟩ | ⟨r, cs, -, hflat⟩
  · exact (wellFormed_of_ofJson hnode).1
  · obtain ⟨hne, k, ts, -, hall, rfl⟩ := Record.flatTree_eq_ok_iff.1 hflat
    refine .group ?_ fun t ht ↦ ?_
    · rintro rfl
      exact hne (List.forall₂_nil_right_iff.1 hall)
    · obtain ⟨c, -, hc⟩ := exists_of_mem_right hall ht
      obtain ⟨op, -, rfl⟩ := FlatCondition.toTree_eq_ok_iff.1 hc
      exact .condition _

/-- A tree that is loaded has a condition without a field exactly if it is made of flat conditions
of which one names no field. -/
theorem isNameless_iff_of_load (h : load text = .ok t) :
    Record.IsNameless text ↔ ∃ c ∈ t.leaves, c.field = "" := by
  constructor
  · rintro ⟨r, cs, hr, d, hd, hname⟩
    rw [hr.load_eq, mapError_eq_ok_iff] at h
    obtain ⟨-, k, ts, -, hall, rfl⟩ := Record.flatTree_eq_ok_iff.1 h
    have hmem : "" ∈ (leavesAll ts).map Condition.field := by
      rw [Record.fields_leavesAll hall]
      exact List.mem_map.2 ⟨d, hd, hname⟩
    exact List.mem_map.1 hmem
  · rintro ⟨c, hc, hempty⟩
    rcases load_cases h with ⟨node, hnode⟩ | ⟨r, cs, hr, hflat⟩
    · exact absurd hempty ((wellFormed_of_ofJson hnode).2 c hc)
    · obtain ⟨-, k, ts, -, hall, rfl⟩ := Record.flatTree_eq_ok_iff.1 hflat
      have hmem : "" ∈ cs.map FlatCondition.fieldName := by
        rw [← Record.fields_leavesAll hall]
        exact List.mem_map.2 ⟨c, hc, hempty⟩
      obtain ⟨d, hd, hname⟩ := List.mem_map.1 hmem
      exact ⟨r, cs, hr, d, hd, hname⟩

/-! ### Loading again -/

/-- An object with an empty field and no children is no node. -/
theorem ofJson_ne_ok {ms : List (String × Json)} (hfield : member? ms "field" = some (.str ""))
    (hchildren : member? ms "children" = none) (t : Tree) : ofJson (.obj ms) ≠ .ok t := by
  intro ht
  cases t with
  | condition c =>
    obtain ⟨_, hms, hc⟩ := ofJson_eq_condition_iff.1 ht
    obtain rfl := Json.obj.inj hms
    obtain ⟨field, -, -, -, -, hfield', hne, -⟩ := conditionOf_eq_ok_iff.1 hc
    have hsame : some (Json.str "") = some (.str field) := hfield.symm.trans hfield'
    exact hne (Json.str.inj (Option.some.inj hsame)).symm
  | group k ts =>
    obtain ⟨_, items, hms, -, hitems, -⟩ := ofJson_eq_group_iff.1 ht
    obtain rfl := Json.obj.inj hms
    simp [hchildren] at hitems

/-- An object without a field, and with children that cannot be decoded, is neither a group nor a
condition. -/
theorem ofJson_eq_noNode {ms : List (String × Json)} {items : List Json}
    (hfield : member? ms "field" = none) (hchildren : member? ms "children" = some (.arr items))
    (hitems : ofJsonAll items = none) : ofJson (.obj ms) = .error .noNode := by
  have hall : childrenAmong ms = none := by
    rw [childrenAmong_eq, hchildren, Option.bind_some, childrenOf, hitems]
  have hnode : ofMembers ms none = conditionOf ms := by
    unfold ofMembers
    split <;> simp_all
  rw [ofJson, hall, hnode, conditionOf, conditionParts, hfield]
  rfl

/-- No document of a condition without a field is decoded, before and after sorting. -/
theorem ofJson_toJson_ne_ok {c : Condition} (h : c.field = "") (t : Tree) :
    ofJson (condition c).toJson ≠ .ok t ∧ ofJson (condition c).toJson.sorted ≠ .ok t := by
  obtain ⟨ns, hns, hmember, -⟩ := Json.exists_ofMembers [("type", .str "condition"),
    ("field", .str c.field), ("operator", .str c.operator.keyword), ("value", .str c.value)]
  have hsorted : (condition c).toJson.sorted = .obj ns := hns
  rw [hsorted, toJson, h]
  rw [h] at hmember
  exact ⟨ofJson_ne_ok rfl rfl t, ofJson_ne_ok (by rw [hmember]; rfl) (by rw [hmember]; rfl) t⟩

/-- Documents are not decoded together if one of them is not decoded. -/
theorem ofJsonAll_map_eq_none {write : Tree → Json} {u : Tree} (hu : u ∈ ts)
    (h : ∀ t, ofJson (write u) ≠ .ok t) : ofJsonAll (ts.map write) = none := by
  rw [Option.eq_none_iff_forall_ne_some]
  intro us hus
  rw [ofJsonAll_eq_some_iff, List.forall₂_map_left_iff] at hus
  obtain ⟨t, -, ht⟩ := exists_of_mem_right hus.flip hu
  exact h t ht

/-- The document of a group is no node if some child is a condition without a field, before and
after sorting. -/
theorem ofJson_toJson_group {k : Connective} {c : Condition} (hc : condition c ∈ ts)
    (h : c.field = "") : ofJson (group k ts).toJson = .error .noNode ∧
      ofJson (group k ts).toJson.sorted = .error .noNode := by
  have hitems : ofJsonAll (ts.map toJson) = none :=
    ofJsonAll_map_eq_none hc fun t ↦ (ofJson_toJson_ne_ok h t).1
  have hitems' : ofJsonAll ((ts.map toJson).map Json.sorted) = none := by
    rw [List.map_map]
    exact ofJsonAll_map_eq_none hc fun t ↦ (ofJson_toJson_ne_ok h t).2
  obtain ⟨ns, hns, hmember, -⟩ := Json.exists_ofMembers [("type", .str "group"),
    ("operator", .str k.keyword), ("children", .arr (Json.sortedItems (toJsonAll ts)))]
  have hsorted : (group k ts).toJson.sorted = .obj ns := hns
  rw [toJsonAll_eq, Json.sortedItems_eq] at hmember
  rw [hsorted, toJson, toJsonAll_eq]
  exact ⟨ofJson_eq_noNode rfl rfl hitems,
    ofJson_eq_noNode (by rw [hmember]; rfl) (by rw [hmember]; rfl) hitems'⟩

/-- The tree of an envelope is the node in it. -/
theorem ofDocument_envelope (t : Tree) :
    ofDocument t.envelope = (ofJson t.toJson).mapError .node ∧
      ofDocument t.envelope.sorted = (ofJson t.toJson.sorted).mapError .node :=
  ⟨rfl, rfl⟩

/-- What was loaded has no group without children, and it is saved and loaded again as it is, with a
field in every condition. The exception are trees that are made of flat conditions of which one
names no field: the document that they are saved as is refused. Either way it does not matter
whether the members of the document are sorted. -/
theorem reload_of_load (h : load text = .ok t) :
    t.EveryGroup (· ≠ []) ∧
    (¬ Record.IsNameless text → (∀ c ∈ t.leaves, c.field ≠ "") ∧
      ofDocument t.envelope = .ok t ∧ ofDocument t.envelope.sorted = .ok t) ∧
    (Record.IsNameless text → ofDocument t.envelope = .error (.node .noNode) ∧
      ofDocument t.envelope.sorted = .error (.node .noNode)) := by
  have hgroup := everyGroup_of_load h
  refine ⟨hgroup, fun hnamed ↦ ?_, ?_⟩
  · have hfield : ∀ c ∈ t.leaves, c.field ≠ "" := by
      simpa [isNameless_iff_of_load h] using hnamed
    exact ⟨hfield, ofDocument_of_isDocument hgroup hfield .envelope⟩
  · rintro ⟨r, cs, hr, d, hd, hname⟩
    rw [hr.load_eq, mapError_eq_ok_iff] at h
    obtain ⟨-, k, ts, -, hall, rfl⟩ := Record.flatTree_eq_ok_iff.1 h
    -- The nameless condition is a child of the group, so the children are not decoded.
    obtain ⟨u, hu, hd⟩ := exists_of_mem_right hall.flip hd
    obtain ⟨op, -, rfl⟩ := FlatCondition.toTree_eq_ok_iff.1 hd
    obtain ⟨hnode, hsorted⟩ := ofJson_toJson_group hu hname
    obtain ⟨henvelope, henvelope'⟩ := ofDocument_envelope (.group k ts)
    rw [henvelope, henvelope', hnode, hsorted]
    exact ⟨rfl, rfl⟩

/-- An older record of one condition with a field. -/
theorem reload_of_older_record :
    let text := "\x7b\"logical_operator\": \" or \", \"conditions\": [" ++
      "\x7b\"field_name\": \"a\", \"operator\": \"not_equals\", \"value\": \"x\"\x7d]\x7d"
    let t : Tree := .group .or [.condition ⟨"a", ⟨.equals, true, false⟩, "x"⟩]
    load text = .ok t ∧ ofDocument t.envelope = .ok t := by
  intro text t
  have h : load text = .ok t := eq_ok_of_toOption (by decide +kernel)
  have hnamed : ¬ Record.IsNameless text := by
    rw [isNameless_iff_of_load h]
    decide
  exact ⟨h, ((reload_of_load h).2.1 hnamed).2.1⟩

/-- A record of one condition without a field has a tree, which is not loaded again. -/
theorem reload_of_nameless_record :
    let text := "\x7b\"conditions\": [" ++
      "\x7b\"field_name\": \"\", \"operator\": \"equals\", \"value\": \"x\"\x7d]\x7d"
    let t : Tree := .group .and [.condition ⟨"", ⟨.equals, false, false⟩, "x"⟩]
    load text = .ok t ∧ ofDocument t.envelope = .error (.node .noNode) := by
  intro text t
  exact ⟨eq_ok_of_toOption (by decide +kernel), rfl⟩

end Tree

end FilterLang
