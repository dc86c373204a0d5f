import FilterLang.Proofs.Dialects
import FilterLang.Proofs.NodeDocuments
import FilterLang.Record
import Mathlib.Data.List.Induction

/-!
# Stored trees

A tree is stored as its node, as an envelope around the node, or as a string that holds the text of
one of these, which may hold the text of another and so on. Any of these documents can stand alone
or in a record. Whatever form was chosen, the tree that is loaded is the one that was stored
(`Tree.load_stored`).

A value that was read from a text has the members of its objects in ascending order, with one member
for each key, while documents are written in an order of their own. Decoding asks for members by
their keys, and sorting changes nothing of what is found there (`exists_ofMembers`).
-/

namespace FilterLang

namespace Json

/-! ### Members of sorted objects -/

variable {key k : String} {v w : Json} {ms ns : List (String × Json)}

/-- A member that is put among others hides those with its key and no others. -/
theorem member?_insertMember :
    member? (insertMember k v ms) key = if key = k then some v else member? ms key := by
  induction ms with
  | nil => rw [insertMember, member?_cons]
  | cons m ms ih =>
    obtain ⟨k', v'⟩ := m
    rw [insertMember]
    split
    · rw [member?_cons]
    · split
      · rename_i h
        obtain rfl := beq_iff_eq.1 h
        rw [member?_cons, member?_cons]
        split <;> rfl
      · rename_i h
        rw [member?_cons, ih, member?_cons]
        have hne : k ≠ k' := by simpa using h
        split <;> split <;> simp_all

theorem mem_insertMember {m : String × Json} (h : m ∈ insertMember k v ms) :
    m = (k, v) ∨ m ∈ ms := by
  induction ms with
  | nil => simpa [insertMember] using h
  | cons m' ms ih =>
    rw [insertMember] at h
    split at h
    · simpa using h
    · split at h
      · rcases List.mem_cons.1 h with h | h
        · exact .inl h
        · exact .inr (List.mem_cons_of_mem _ h)
      · rcases List.mem_cons.1 h with h | h
        · exact .inr (h ▸ List.mem_cons_self)
        · exact (ih h).imp_right (List.mem_cons_of_mem _)

/-- The object of some members has them and no others, the last of each key. -/
theorem exists_ofMembers (ms : List (String × Json)) : ∃ ns, ofMembers ms = .obj ns ∧
    (∀ key, member? ns key = member? ms.reverse key) ∧ ∀ m ∈ ns, m ∈ ms := by
  refine ⟨_, rfl, ?_⟩
  induction ms using List.reverseRecOn with
  | nil => simp
  | append_singleton ms m ih =>
    obtain ⟨k, v⟩ := m
    rw [List.foldl_append, List.foldl_cons, List.foldl_nil]
    constructor
    · intro key
      rw [member?_insertMember, List.reverse_append, List.reverse_singleton, List.singleton_append,
        member?_cons, ih.1 key]
    · intro m hm
      rcases mem_insertMember hm with rfl | hm
      · simp
      · exact List.mem_append_left _ (ih.2 m hm)

theorem sortedItems_eq (vs : List Json) : sortedItems vs = vs.map sorted := by
  induction vs with
  | nil => rfl
  | cons v vs ih => rw [sortedItems, ih, List.map_cons]

theorem sortedMembers_eq (ms : List (String × Json)) :
    sortedMembers ms = ms.map fun m ↦ (m.1, m.2.sorted) := by
  induction ms with
  | nil => rfl
  | cons m ms ih => rw [sortedMembers, ih, List.map_cons]

theorem member?_map (f : Json → Json) (ms : List (String × Json)) :
    member? (ms.map fun m ↦ (m.1, f m.2)) key = (member? ms key).map f := by
  induction ms with
  | nil => rfl
  | cons m ms ih =>
    rw [List.map_cons, member?_cons, ih, member?_cons]
    split <;> rfl

/-- A sorted object has the last member of each key, sorted. -/
theorem get?_sorted (ms : List (String × Json)) (key : String) :
    (obj ms).sorted.get? key = (member? ms.reverse key).map sorted := by
  obtain ⟨ns, hns, hmember, -⟩ := exists_ofMembers (sortedMembers ms)
  rw [sorted, hns, get?, hmember, sortedMembers_eq, ← List.map_reverse, member?_map]

theorem member?_append (ns : List (String × Json)) (h : ∀ m ∈ ms, m.1 ≠ key) :
    member? (ms ++ ns) key = member? ns key := by
  induction ms with
  | nil => rfl
  | cons m ms ih =>
    obtain ⟨hm, hms⟩ := List.forall_mem_cons.1 h
    rw [List.cons_append, member?_cons, if_neg (Ne.symm hm), ih hms]

theorem member?_eq_none (h : ∀ m ∈ ms, m.1 ≠ key) : member? ms key = none := by
  simpa [member?] using member?_append [] h

/-- Sorting adds no members. -/
theorem get?_eq_none (h : ∀ m ∈ ms, m.1 ≠ key) :
    (obj ms).get? key = none ∧ (obj ms).sorted.get? key = none := by
  refine ⟨member?_eq_none h, ?_⟩
  rw [get?_sorted, member?_eq_none fun m hm ↦ h m (List.mem_reverse.1 hm), Option.map_none]

end Json

/-! ### Nodes -/

namespace Tree

open Json (member? IsPlain)

variable {ms : List (String × Json)} {t : Tree} {ts : List Tree} {c : Condition} {k : Connective}
  {v : Json}

/-- An object with the members of a condition and no flags describes the condition. -/
theorem describes_condition (hfield : member? ms "field" = some (.str c.field))
    (hne : c.field ≠ "") (hop : member? ms "operator" = some (.str c.operator.keyword))
    (hvalue : member? ms "value" = some (.str c.value)) (hnegate : member? ms "negate" = none)
    (hcase : member? ms "case_sensitive" = none) : Describes (.obj ms) (.condition c) :=
  @Describes.condition ms c.field c.operator (some c.value) none none hfield hne hop hvalue hnegate
    hcase

theorem toJsonAll_eq (ts : List Tree) : toJsonAll ts = ts.map toJson := by
  induction ts with
  | nil => rfl
  | cons t ts ih => rw [toJsonAll, ih, List.map_cons]

/-- The document of a tree describes the tree, and so does the document after sorting. -/
theorem describes_toJson (hgroup : t.EveryGroup (· ≠ [])) (hfield : ∀ c ∈ t.leaves, c.field ≠ "") :
    Describes t.toJson t ∧ Describes t.toJson.sorted t := by
  induction t using tree_induction with
  | condition c =>
    have hne : c.field ≠ "" := hfield c (by simp [leaves])
    obtain ⟨ns, hns, hmember, -⟩ := Json.exists_ofMembers [("type", .str "condition"),
      ("field", .str c.field), ("operator", .str c.operator.keyword), ("value", .str c.value)]
    have hsorted : (condition c).toJson.sorted = .obj ns := hns
    rw [hsorted, toJson]
    constructor
    · exact describes_condition rfl hne rfl rfl rfl rfl
    · refine describes_condition ?_ hne ?_ ?_ ?_ ?_ <;> rw [hmember] <;> rfl
  | group k ts ih =>
    obtain ⟨hne, hall⟩ := everyGroup_group.1 hgroup
    have ih : ∀ t ∈ ts, Describes t.toJson t ∧ Describes t.toJson.sorted t :=
      fun t ht ↦ ih t ht (hall t ht) fun c hc ↦ hfield c (mem_leaves_group ht hc)
    have hitems : List.Forall₂ Describes (ts.map toJson) ts :=
      List.forall₂_map_left_iff.2 (List.forall₂_same.2 fun t ht ↦ (ih t ht).1)
    have hitems' : List.Forall₂ Describes ((ts.map toJson).map Json.sorted) ts := by
      rw [List.map_map]
      exact List.forall₂_map_left_iff.2 (List.forall₂_same.2 fun t ht ↦ (ih t ht).2)
    obtain ⟨ns, hns, hmember, -⟩ := Json.exists_ofMembers [("type", .str "group"),
      ("operator", .str k.keyword), ("children", .arr (Json.sortedItems (toJsonAll ts)))]
    have hsorted : (group k ts).toJson.sorted = .obj ns := hns
    have hkeyword : k.keyword ∈ k.spellings := by cases k <;> decide
    rw [toJsonAll_eq, Json.sortedItems_eq] at hmember
    rw [hsorted, toJson, toJsonAll_eq]
    constructor
    · exact .group rfl hkeyword rfl (by simpa using hne) hitems
    · exact .group (by rw [hmember]; rfl) hkeyword (by rw [hmember]; rfl) (by simpa using hne)
        hitems'

/-- The document of a tree is read back, and so is the document after sorting. -/
theorem ofJson_toJson (hgroup : t.EveryGroup (· ≠ [])) (hfield : ∀ c ∈ t.leaves, c.field ≠ "") :
    ofJson t.toJson = .ok t ∧ ofJson t.toJson.sorted = .ok t :=
  (describes_toJson hgroup hfield).imp ofJson_of_describes ofJson_of_describes

theorem isPlain_toJson (t : Tree) : t.toJson.IsPlain := by
  induction t using tree_induction with
  | condition c =>
    refine .obj fun m hm ↦ ?_
    simp only [List.mem_cons, List.not_mem_nil, or_false] at hm
    rcases hm with rfl | rfl | rfl | rfl <;> exact .str _
  | group k ts ih =>
    refine .obj fun m hm ↦ ?_
    simp only [List.mem_cons, List.not_mem_nil, or_false] at hm
    rcases hm with rfl | rfl | rfl
    · exact .str _
    · exact .str _
    · refine .arr fun v hv ↦ ?_
      rw [toJsonAll_eq] at hv
      obtain ⟨t, ht, rfl⟩ := List.mem_map.1 hv
      exact ih t ht

theorem isPlain_envelope (t : Tree) : t.envelope.IsPlain := by
  refine .obj fun m hm ↦ ?_
  rw [List.mem_singleton.1 hm]
  exact t.isPlain_toJson

/-! ### Documents -/

/-- The documents that a tree can be stored as: its node, the envelope around it, and the text of a
document as a string. -/
inductive IsDocument (t : Tree) : Json → Prop
  | node : IsDocument t t.toJson
  | envelope : IsDocument t t.envelope
  | embedded {v : Json} {s : String} (h : IsDocument t v) (hs : v.IsText s) :
      IsDocument t (.str s)

/-- A node has no members but its own, before and after sorting. -/
theorem get?_toJson (t : Tree) (key : String)
    (h : key ∉ ["type", "field", "operator", "value", "children"]) :
    t.toJson.get? key = none ∧ t.toJson.sorted.get? key = none := by
  cases t with
  | condition c =>
    refine Json.get?_eq_none ?_
    simp_all [eq_comm]
  | group k ts =>
    refine Json.get?_eq_none ?_
    simp_all [eq_comm]

/-- An envelope has the member `root` and no other. -/
theorem get?_envelope (t : Tree) (key : String) :
    t.envelope.get? key = (if key = "root" then some t.toJson else none) ∧
      t.envelope.sorted.get? key = if key = "root" then some t.toJson.sorted else none := by
  constructor
  · rw [envelope, Json.get?, Json.member?_cons]
    rfl
  · rw [envelope, Json.get?_sorted, List.reverse_singleton, Json.member?_cons]
    split <;> rfl

theorem wrappings_sorted (v : Json) : wrappings v.sorted = wrappings v := by
  cases v <;> rfl

/-- A text holds fewer wrappings than it has characters. -/
theorem wrappings_le {s : String} (h : v.IsText s) : wrappings v ≤ s.length := by
  cases v with
  | str u => exact h.length_lt
  | _ => exact Nat.zero_le _

/-- A value that is no string is a node or holds one under `root`. -/
theorem ofDocumentWithin_of_ofJson {node : Json} {fuel : Nat} (hv : ∀ s, v ≠ .str s)
    (hroot : (v.get? "root").getD v = node) (hnode : ofJson node = .ok t) :
    ofDocumentWithin fuel v = .ok t := by
  unfold ofDocumentWithin
  split
  · exact absurd rfl (hv _)
  · rw [hroot, hnode]
    rfl

/-- The tree of a document is the tree that was stored, however often it is wrapped in strings. The
induction is on the wrappings, and each takes up one step of the fuel. -/
theorem ofDocumentWithin_of_isDocument (hgroup : t.EveryGroup (· ≠ []))
    (hfield : ∀ c ∈ t.leaves, c.field ≠ "") (h : IsDocument t v) {fuel : Nat}
    (hfuel : wrappings v ≤ fuel) :
    ofDocumentWithin fuel v = .ok t ∧ ofDocumentWithin fuel v.sorted = .ok t := by
  obtain ⟨hnode, hnode'⟩ := ofJson_toJson hgroup hfield
  have hsorted {v : Json} (hv : ∀ s, v ≠ .str s) (s : String) : v.sorted ≠ .str s :=
    fun h ↦ hv s (Json.sorted_eq_str_iff.1 h)
  induction h generalizing fuel with
  | node =>
    have hstr (s : String) : t.toJson ≠ .str s := by cases t <;> simp [toJson]
    obtain ⟨hroot, hroot'⟩ := t.get?_toJson "root" (by decide)
    exact ⟨ofDocumentWithin_of_ofJson hstr (by rw [hroot, Option.getD_none]) hnode,
      ofDocumentWithin_of_ofJson (hsorted hstr) (by rw [hroot', Option.getD_none]) hnode'⟩
  | envelope =>
    have hstr (s : String) : t.envelope ≠ .str s := by simp [envelope]
    obtain ⟨hroot, hroot'⟩ := t.get?_envelope "root"
    rw [if_pos rfl] at hroot hroot'
    exact ⟨ofDocumentWithin_of_ofJson hstr (by rw [hroot, Option.getD_some]) hnode,
      ofDocumentWithin_of_ofJson (hsorted hstr) (by rw [hroot', Option.getD_some]) hnode'⟩
  | @embedded v s _ hs ih =>
    obtain ⟨fuel, rfl⟩ : ∃ n, fuel = n + 1 := ⟨fuel - 1, by simp only [wrappings] at hfuel; omega⟩
    have hrest : wrappings v ≤ fuel :=
      Nat.le_trans (wrappings_le hs) (Nat.le_of_succ_le_succ hfuel)
    have hinner : ofDocumentWithin (fuel + 1) (.str s) = ofDocumentWithin fuel v.sorted := by
      rw [ofDocumentWithin, hs.readLenient_eq]
    exact ⟨hinner.trans (ih hrest).2, hinner.trans (ih hrest).2⟩

theorem ofDocument_of_isDocument (hgroup : t.EveryGroup (· ≠ []))
    (hfield : ∀ c ∈ t.leaves, c.field ≠ "") (h : IsDocument t v) :
    ofDocument v = .ok t ∧ ofDocument v.sorted = .ok t := by
  unfold ofDocument
  rw [wrappings_sorted]
  exact ofDocumentWithin_of_isDocument hgroup hfield h (Nat.le_refl _)

/-- A document is not taken for a record. -/
theorem looksLike_of_isDocument (h : IsDocument t v) : Record.looksLike v.sorted = false := by
  cases h with
  | node =>
    have htree := (t.get?_toJson "condition_tree" (by decide)).2
    have hflat := (t.get?_toJson "conditions" (by decide)).2
    rw [Record.looksLike, htree, hflat]
    rfl
  | envelope =>
    -- Its one member is neither of the two that only records have.
    rw [Record.looksLike, (t.get?_envelope _).2, (t.get?_envelope _).2]
    rfl
  -- A string has no members at all.
  | embedded => rfl

/-- Every text of a document is loaded as the tree that was stored. -/
theorem load_of_isDocument (hgroup : t.EveryGroup (· ≠ []))
    (hfield : ∀ c ∈ t.leaves, c.field ≠ "") (h : IsDocument t v) {s : String} (hs : v.IsText s) :
    load s = .ok t := by
  rw [load, hs.readLenient_eq]
  dsimp only
  rw [looksLike_of_isDocument h, if_neg (by simp)]
  exact (ofDocument_of_isDocument hgroup hfield h).2

end Tree

/-! ### Records -/

theorem FlatCondition.isPlain_toJson (c : FlatCondition) : c.toJson.IsPlain := by
  refine .obj fun m hm ↦ ?_
  simp only [List.mem_cons, List.not_mem_nil, or_false] at hm
  rcases hm with rfl | rfl | rfl <;> exact .str _

namespace Record

/-- The members that can stand in a record beside the tree, each with a value of its kind. The
conditions of an older record may be any that are decoded, also such that have no tree. Members that
records do not know are left out of account. -/
inductive Accompanies : String × Json → Prop
  | text {key : String} (hkey : key ∈ ["id", "name", "source_type", "logical_operator"])
      (s : Option String) : Accompanies (key, s.elim .null .str)
  | inverse (b : Bool) : Accompanies ("is_inverse", .bool b)
  | conditions {v : Json} {cs : Option (List FlatCondition)}
      (h : v.sorted.asOption (Json.asList (FlatCondition.layout.decode Json.convention)) = .ok cs) :
      Accompanies ("conditions", v)
  | other {key : String} (hkey : key ∉ layout.fields) (v : Json) : Accompanies (key, v)

variable {r : Record} {key : String} {v d : Json} {ns : List (String × Json)}

/-- A condition of an older record is decoded from its document. -/
theorem decode_flatCondition (c : FlatCondition) :
    FlatCondition.layout.decode Json.convention c.toJson.sorted = .ok c := by
  -- The members are written in ascending order.
  have hsorted : c.toJson.sorted = c.toJson := rfl
  rw [hsorted]
  rfl

theorem asList_flatConditions (cs : List FlatCondition) :
    Json.asList (FlatCondition.layout.decode Json.convention)
      (Json.arr (cs.map FlatCondition.toJson)).sorted = .ok cs := by
  rw [Json.sorted, Json.sortedItems_eq, List.map_map, Json.asList]
  induction cs with
  | nil => rfl
  | cons c cs ih =>
    rw [List.map_cons, List.mapM_cons, Function.comp_apply, decode_flatCondition, ih]
    rfl

/-- The conditions of an older record are decoded as they are written. -/
theorem accompanies_conditions (cs : Option (List FlatCondition)) :
    Accompanies ("conditions", cs.elim .null fun cs ↦ .arr (cs.map FlatCondition.toJson)) := by
  cases cs with
  | none =>
    have hnull : Json.null.sorted.asOption
        (Json.asList (FlatCondition.layout.decode Json.convention)) = .ok none := rfl
    exact .conditions hnull
  | some cs =>
    have hlist : (Json.arr (cs.map FlatCondition.toJson)).sorted.asOption
        (Json.asList (FlatCondition.layout.decode Json.convention)) = .ok (some cs) := by
      show Except.map some (Json.asList _ (Json.arr (cs.map FlatCondition.toJson)).sorted) = _
      rw [asList_flatConditions]
      rfl
    exact .conditions hlist

/-- The tree is not among the members beside it. -/
theorem Accompanies.ne_conditionTree {m : String × Json} (h : Accompanies m) :
    m.1 ≠ "condition_tree" := by
  intro he
  cases h with
  | text hkey =>
    obtain rfl : _ = "condition_tree" := he
    exact absurd hkey (by decide)
  | inverse => simp at he
  | conditions => simp at he
  | other hkey =>
    obtain rfl : _ = "condition_tree" := he
    exact hkey (by decide)

/-- What accompanies the tree is decoded and leaves the tree as it is. -/
theorem put_of_accompanies (h : Accompanies (key, v)) (hkey : key ∈ layout.fields) (r : Record) :
    ∃ r', layout.put r key v.sorted = .ok r' ∧ r'.conditionTree = r.conditionTree := by
  cases h with
  | text hkey s =>
    simp only [List.mem_cons, List.not_mem_nil, or_false] at hkey
    rcases hkey with rfl | rfl | rfl | rfl <;> cases s <;> exact ⟨_, rfl, rfl⟩
  | inverse b => exact ⟨_, rfl, rfl⟩
  | @conditions v cs hcs =>
    refine ⟨{ r with conditions := cs }, ?_, rfl⟩
    show (do
      let conditions ← v.sorted.asOption
        (Json.asList (FlatCondition.layout.decode Json.convention))
      return { r with conditions }) = _
    rw [hcs]
    rfl
  | other hother => exact absurd hkey hother

/-- Members that accompany a tree, and the tree itself, are decoded with the tree in its place, in
any order. -/
theorem foldlM_put (hd : d ≠ .null)
    (hall : ∀ m ∈ ns, m.1 ∈ layout.fields ∧ (m = ("condition_tree", d) ∨
      ∃ v, Accompanies (m.1, v) ∧ m.2 = v.sorted)) (r : Record) :
    ∃ r', ns.foldlM (fun s (key, v) ↦ layout.put s key v) r = .ok r' ∧
      (r.conditionTree = some d ∨ ("condition_tree", d) ∈ ns → r'.conditionTree = some d) := by
  induction ns generalizing r with
  | nil => exact ⟨r, rfl, by simp⟩
  | cons m ns ih =>
    obtain ⟨⟨hkey, hm⟩, hns⟩ := List.forall_mem_cons.1 hall
    obtain ⟨key, w⟩ := m
    rw [List.foldlM_cons]
    rcases hm with he | ⟨v, hv, rfl⟩
    · obtain ⟨rfl, rfl⟩ := Prod.mk.inj he
      have hput : layout.put r "condition_tree" w = .ok { r with conditionTree := some w } := by
        cases w with
        | null => exact absurd rfl hd
        | _ => rfl
      obtain ⟨r', hr', htree⟩ := ih hns { r with conditionTree := some w }
      refine ⟨r', ?_, fun _ ↦ htree (.inl rfl)⟩
      dsimp only
      rw [hput]
      exact hr'
    · obtain ⟨s, hs, hsame⟩ := put_of_accompanies hv hkey r
      obtain ⟨r', hr', htree⟩ := ih hns s
      refine ⟨r', ?_, fun h ↦ htree ?_⟩
      · dsimp only at hs ⊢
        rw [hs]
        exact hr'
      · rw [hsame]
        refine h.imp_right fun hmem ↦ (List.mem_cons.1 hmem).resolve_left fun he ↦ ?_
        exact hv.ne_conditionTree (congrArg Prod.fst he).symm

/-- A record is decoded with the tree that it holds. -/
theorem exists_ofJson {before after : List (String × Json)}
    (hbeside : ∀ m ∈ before ++ after, Accompanies m) (hv : v.sorted ≠ .null) :
    let record := (Json.obj (before ++ ("condition_tree", v) :: after)).sorted
    looksLike record = true ∧ ∃ r, ofJson record = .ok r ∧ r.conditionTree = some v.sorted := by
  intro record
  have hget : record.get? "condition_tree" = some v.sorted := by
    have hafter : ∀ m ∈ after.reverse, m.1 ≠ "condition_tree" := fun m hm ↦
      (hbeside m (List.mem_append_right _ (List.mem_reverse.1 hm))).ne_conditionTree
    rw [Json.get?_sorted, List.reverse_append, List.reverse_cons, List.append_assoc,
      Json.member?_append _ hafter, List.singleton_append, Json.member?_cons, if_pos rfl,
      Option.map_some]
  refine ⟨by rw [looksLike, hget]; rfl, ?_⟩
  obtain ⟨ns, hns, -, hmem⟩ := Json.exists_ofMembers
    (Json.sortedMembers (before ++ ("condition_tree", v) :: after))
  have hrecord : record = .obj ns := hns
  rw [hrecord] at hget ⊢
  have hin : ("condition_tree", v.sorted) ∈ ns := Json.mem_of_member?_eq_some hget
  -- Unknown members are left out, and the others are those of the record, sorted.
  have hall : ∀ m ∈ ns.filter (fun m ↦ layout.fields.contains m.1), m.1 ∈ layout.fields ∧
      (m = ("condition_tree", v.sorted) ∨ ∃ u, Accompanies (m.1, u) ∧ m.2 = u.sorted) := by
    intro m hm
    obtain ⟨hm, hkey⟩ := List.mem_filter.1 hm
    refine ⟨by simpa using hkey, ?_⟩
    have hm := hmem m hm
    rw [Json.sortedMembers_eq] at hm
    obtain ⟨m', hm', rfl⟩ := List.mem_map.1 hm
    rcases List.mem_append.1 hm' with hm' | hm'
    · exact .inr ⟨m'.2, hbeside m' (List.mem_append_left _ hm'), rfl⟩
    · rcases List.mem_cons.1 hm' with rfl | hm'
      · exact .inl rfl
      · exact .inr ⟨m'.2, hbeside m' (List.mem_append_right _ hm'), rfl⟩
  obtain ⟨r, hr, htree⟩ := foldlM_put hv hall empty
  refine ⟨r, ?_, htree (.inr (List.mem_filter.2 ⟨hin, by simp [layout]⟩))⟩
  have hdecode : ofJson (.obj ns) = ((ns.filter fun m ↦ layout.fields.contains m.1).foldlM
      (fun s (key, v) ↦ layout.put s key v) empty >>= fun s ↦ .ok s) := rfl
  rw [hdecode, hr]
  rfl

end Record

/-! ### Every stored form -/

namespace Tree

/-- A tree document is an object or a string. -/
theorem sorted_ne_null_of_isDocument {t : Tree} {v : Json} (h : IsDocument t v) :
    v.sorted ≠ .null := by
  cases h with
  | node => cases t <;> simp [toJson, Json.sorted, Json.ofMembers]
  | envelope => simp [envelope, Json.sorted, Json.ofMembers]
  | embedded => simp [Json.sorted]

/-- Every stored form of a tree is loaded as that tree, if no group of the tree is empty and every
condition names a field. A form is a document `v` of the tree, as a value, as a text, or as a text
of a record around it with any other members. -/
theorem load_stored (t : Tree) (hgroup : t.EveryGroup (· ≠ []))
    (hfield : ∀ c ∈ t.leaves, c.field ≠ "") (v : Json) (h : IsDocument t v) :
    ofDocument v = .ok t ∧ ofDocument v.sorted = .ok t ∧
    (∀ s, v.IsText s → load s = .ok t) ∧
    ∀ before after s, (∀ m ∈ before ++ after, Record.Accompanies m) →
      (Json.obj (before ++ ("condition_tree", v) :: after)).IsText s → load s = .ok t := by
  obtain ⟨hvalue, hsorted⟩ := ofDocument_of_isDocument hgroup hfield h
  refine ⟨hvalue, hsorted, fun s hs ↦ load_of_isDocument hgroup hfield h hs, ?_⟩
  intro before after s hbeside hs
  obtain ⟨hlooks, r, hr, htree⟩ :=
    Record.exists_ofJson hbeside (sorted_ne_null_of_isDocument h)
  rw [load, hs.readLenient_eq]
  dsimp only
  rw [hlooks, if_pos rfl, hr]
  dsimp only
  rw [Record.tree, Record.document?_eq_some_iff.2 ⟨htree, sorted_ne_null_of_isDocument h⟩]
  exact hsorted

/-- A negated condition and a group, in an envelope over several lines, as a string in a string in a
record. The record's own conditions have no tree, since `=` is no operator. -/
theorem load_stored_embedded_twice :
    let t : Tree := .group .and [.condition ⟨"title", ⟨.contains, true, true⟩, "a \"b\"\n"⟩,
      .group .or [.condition ⟨"year", ⟨.equals, false, false⟩, ""⟩]]
    let inner := t.envelope.pretty
    let outer := (Json.str inner).compact
    let older := FlatCondition.toJson ⟨"year", "=", ""⟩
    load t.toJson.compact = .ok t ∧ load (Json.obj [("id", .str "7"), ("is_inverse", .bool true),
      ("condition_tree", .str outer), ("conditions", .arr [older])]).pretty = .ok t := by
  intro t inner outer older
  have hgroup : t.EveryGroup (· ≠ []) := by simp [t, everyGroup_group, EveryGroup.condition]
  have hfield : ∀ c ∈ t.leaves, c.field ≠ "" := by decide
  have hinner : IsDocument t (.str inner) :=
    .embedded .envelope (Json.isText_pretty t.isPlain_envelope)
  have houter : IsDocument t (.str outer) := .embedded hinner (Json.isText_compact (.str inner))
  have hplain : (Json.obj [("id", .str "7"), ("is_inverse", .bool true),
      ("condition_tree", .str outer), ("conditions", .arr [older])]).IsPlain := by
    refine .obj fun m hm ↦ ?_
    simp only [List.mem_cons, List.not_mem_nil, or_false] at hm
    rcases hm with rfl | rfl | rfl | rfl
    · exact .str _
    · exact .bool _
    · exact .str _
    · refine .arr fun v hv ↦ ?_
      rw [List.mem_singleton.1 hv]
      exact FlatCondition.isPlain_toJson _
  refine ⟨(load_stored t hgroup hfield _ .node).2.2.1 _ (Json.isText_compact t.isPlain_toJson), ?_⟩
  refine (load_stored t hgroup hfield _ houter).2.2.2 [("id", .str "7"), ("is_inverse", .bool true)]
    [("conditions", .arr [older])] _ (fun m hm ↦ ?_) (Json.isText_pretty hplain)
  simp only [List.mem_append, List.mem_cons, List.not_mem_nil, or_false] at hm
  rcases hm with (rfl | rfl) | rfl
  · exact .text (by decide) (some "7")
  · exact .inverse true
  · exact Record.accompanies_conditions (some [⟨"year", "=", ""⟩])

end Tree

end FilterLang
