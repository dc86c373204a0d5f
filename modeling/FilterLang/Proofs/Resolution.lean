import FilterLang.Proofs.Loading

/-!
# The tree of a record

A record with a document has the tree of that document, whatever its older members hold. Without one
its tree is made of its flat conditions: one group whose children are these conditions in their order
(`FlatCondition.Describes`), joined by the connective that the record names (`Record.Joins`). There
is such a tree exactly if there is a condition, every operator is a keyword and the name stands for a
connective (`Record.tree_exact`). Everything else is refused as a whole, with the first thing that is
wrong (`Record.tree_eq_error_iff`).
-/

namespace FilterLang

/-- The results of a list fail with the first failure in it. -/
theorem mapM_eq_error_iff {α β ε : Type} {f : α → Except ε β} {as : List α} {e : ε} :
    as.mapM f = .error e ↔ ∃ front a back, as = front ++ a :: back ∧
      (∀ x ∈ front, ∃ b, f x = .ok b) ∧ f a = .error e := by
  induction as with
  | nil => simp [pure, Except.pure]
  | cons x as ih =>
    rw [List.mapM_cons]
    constructor
    · intro h
      cases hx : f x with
      | error e' =>
        rw [hx] at h
        obtain rfl : e' = e := by simpa [bind, Except.bind] using h
        exact ⟨[], x, as, rfl, by simp, hx⟩
      | ok b =>
        have htail : as.mapM f = .error e := by
          cases has : as.mapM f <;> simp_all [bind, Except.bind, pure, Except.pure]
        obtain ⟨front, a, back, rfl, hfront, ha⟩ := ih.1 htail
        exact ⟨x :: front, a, back, rfl, by simpa using ⟨⟨b, hx⟩, hfront⟩, ha⟩
    · rintro ⟨_ | ⟨y, front⟩, a, back, has, hfront, ha⟩
      · obtain ⟨rfl, rfl⟩ := List.cons.inj has
        simp [ha, bind, Except.bind]
      · obtain ⟨rfl, rfl⟩ := List.cons.inj has
        obtain ⟨⟨b, hb⟩, hfront⟩ := List.forall_mem_cons.1 hfront
        rw [hb, ih.2 ⟨front, a, back, rfl, hfront, ha⟩]
        rfl

theorem mapError_eq_error_iff {α ε ε' : Type} {f : ε → ε'} {x : Except ε α} {e : ε'} :
    x.mapError f = .error e ↔ ∃ e', x = .error e' ∧ e = f e' := by
  cases x <;> simp [Except.mapError, eq_comm]

/-- A list of images goes with another list exactly if the list that it is the image of does. -/
theorem forall₂_exists_map_iff {α β γ : Type} {R : α → β → Prop} {f : β → γ} {as : List α}
    {cs : List γ} : List.Forall₂ (fun a c ↦ ∃ b, R a b ∧ c = f b) as cs ↔
      ∃ bs, List.Forall₂ R as bs ∧ cs = bs.map f := by
  constructor
  · intro h
    induction h with
    | nil => exact ⟨[], .nil, rfl⟩
    | cons hc _ ih =>
      obtain ⟨b, hb, rfl⟩ := hc
      obtain ⟨bs, hbs, rfl⟩ := ih
      exact ⟨b :: bs, .cons hb hbs, rfl⟩
  · rintro ⟨bs, h, rfl⟩
    rw [List.forall₂_map_right_iff]
    exact h.imp fun a b hb ↦ ⟨b, hb, rfl⟩

namespace Text

/-- Nothing is left of a text without its outer blanks exactly if all of it is blank. -/
theorem trimmed_eq_empty_iff {s : String} : trimmed s = "" ↔ ∀ c ∈ s.toList, isBlank c := by
  rw [trimmed, String.ofList_eq_empty_iff, trim, trimRight, List.reverse_eq_nil_iff,
    List.dropWhile_eq_nil_iff]
  simp only [List.mem_reverse]
  constructor
  · intro h c hc
    rw [← List.takeWhile_append_dropWhile (p := isBlank) (l := s.toList)] at hc
    rcases List.mem_append.1 hc with hc | hc
    · exact List.all_eq_true.1 List.all_takeWhile c hc
    · exact h c hc
  · exact fun h c hc ↦ h c ((List.dropWhile_sublist isBlank).subset hc)

end Text

/-! ### Connectives -/

namespace Connective

/-- The names of a connective in a stored filter, in small letters. -/
def names : Connective → List String
  | and => ["and", "all", "&&"]
  | or => ["or", "any", "||"]

theorem ofName?_eq_some_iff {name : String} {k : Connective} :
    ofName? name = some k ↔ Text.asciiLowered name ∈ k.names := by
  cases k <;> simp [ofName?, names] <;> grind

/-- No name is blank. -/
theorem asciiLowered_empty_notMem_names (k : Connective) : Text.asciiLowered "" ∉ k.names := by
  cases k <;> decide

end Connective

/-! ### Flat conditions -/

variable {v : Json} {t : Tree} {e : TreeFault}

/-- Whether a condition of a tree says what a flat condition says: its field and its value are the
same, and its operator is the one with that keyword. -/
structure FlatCondition.Describes (c : FlatCondition) (d : Condition) : Prop where
  field : d.field = c.fieldName
  value : d.value = c.value
  operator : d.operator.keyword = c.operator

namespace FlatCondition

theorem toTree_eq_ok_iff_describes {c : FlatCondition} :
    c.toTree = .ok t ↔ ∃ d, c.Describes d ∧ t = .condition d := by
  rw [toTree_eq_ok_iff]
  constructor
  · rintro ⟨op, hop, rfl⟩
    exact ⟨_, ⟨rfl, rfl, Operator.keyword_of_ofKeyword? hop⟩, rfl⟩
  · rintro ⟨⟨field, op, value⟩, ⟨rfl, rfl, hop⟩, rfl⟩
    exact ⟨op, by rw [← hop, Operator.ofKeyword?_keyword], rfl⟩

theorem exists_describes_iff {c : FlatCondition} :
    (∃ d, c.Describes d) ↔ c.operator ∈ Operator.keywords := by
  constructor
  · rintro ⟨d, hd⟩
    exact List.mem_map.2 ⟨d.operator, Operator.mem_all _, hd.operator⟩
  · intro h
    obtain ⟨op, -, hop⟩ := List.mem_map.1 h
    exact ⟨⟨c.fieldName, op, c.value⟩, rfl, rfl, hop⟩

theorem toTree_eq_error_iff {c : FlatCondition} : c.toTree = .error e ↔
    c.operator ∉ Operator.keywords ∧ e = .unknownOperator c.operator c.fieldName := by
  rw [← exists_describes_iff]
  constructor
  · intro h
    refine ⟨fun ⟨d, hd⟩ ↦ ?_, ?_⟩
    · rw [toTree_eq_ok_iff_describes.2 ⟨d, hd, rfl⟩] at h
      cases h
    · unfold toTree at h
      split at h <;> cases h
      rfl
  · rintro ⟨hnone, rfl⟩
    unfold toTree
    split
    · rename_i op hop
      exact absurd ⟨⟨c.fieldName, op, c.value⟩, rfl, rfl, Operator.keyword_of_ofKeyword? hop⟩ hnone
    · rfl

end FlatCondition

/-! ### Records -/

namespace Record

variable {r : Record} {cs : List FlatCondition} {k : Connective}

/-- Which connective a name stands for. Without a name, or with a blank one, it is `AND`. Blanks
around a name and ASCII case do not matter. -/
inductive Joins : Option String → Connective → Prop
  | absent : Joins none .and
  | blank {name : String} (h : ∀ c ∈ name.toList, Text.isBlank c) : Joins (some name) .and
  | named {name : String} {k : Connective}
      (h : Text.asciiLowered (Text.trimmed name) ∈ k.names) : Joins (some name) k

theorem connective_eq_ok_iff : r.connective = .ok k ↔ Joins r.logicalOperator k := by
  unfold connective
  cases r.logicalOperator with
  | none =>
    constructor
    · rintro ⟨⟩
      exact .absent
    · rintro ⟨⟩
      rfl
  | some name =>
    dsimp only [Option.getD_some]
    by_cases hblank : Text.trimmed name = ""
    · rw [if_pos (by simpa using hblank)]
      constructor
      · rintro ⟨⟩
        exact .blank (Text.trimmed_eq_empty_iff.1 hblank)
      · rintro (_ | _ | h)
        · rfl
        · rw [hblank] at h
          exact absurd h k.asciiLowered_empty_notMem_names
    · rw [if_neg (by simpa using hblank)]
      have hnamed : Joins (some name) k ↔ Connective.ofName? (Text.trimmed name) = some k := by
        rw [Connective.ofName?_eq_some_iff]
        constructor
        · rintro (_ | h | h)
          · exact absurd (Text.trimmed_eq_empty_iff.2 h) hblank
          · exact h
        · exact .named
      rw [hnamed]
      cases Connective.ofName? (Text.trimmed name) <;> simp

theorem connective_eq_error_iff : r.connective = .error e ↔ (∀ k, ¬ Joins r.logicalOperator k) ∧
    e = .unknownConnective (Text.trimmed (r.logicalOperator.getD "")) := by
  simp only [← connective_eq_ok_iff]
  unfold connective
  dsimp only
  split
  · simp
  · split <;> simp [eq_comm]

/-- The tree of flat conditions, by what the conditions say. -/
theorem flatTree_eq_ok_iff_describes : r.flatTree cs = .ok t ↔ cs ≠ [] ∧ ∃ k ds,
    Joins r.logicalOperator k ∧ List.Forall₂ FlatCondition.Describes cs ds ∧
      t = .group k (ds.map .condition) := by
  simp only [flatTree_eq_ok_iff, connective_eq_ok_iff, FlatCondition.toTree_eq_ok_iff_describes,
    forall₂_exists_map_iff]
  constructor
  · rintro ⟨hne, k, _, hk, ⟨ds, hds, rfl⟩, rfl⟩
    exact ⟨hne, k, ds, hk, hds, rfl⟩
  · rintro ⟨hne, k, ds, hk, hds, rfl⟩
    exact ⟨hne, k, _, hk, ⟨ds, hds, rfl⟩, rfl⟩

/-- What is wrong with a record that has no document. The conditions are read only if the connective
is known, and the first one with an unknown operator is named. -/
inductive Lacks (r : Record) : TreeFault → Prop
  | conditions (h : r.conditions = none) : Lacks r .noConditions
  | condition (h : r.conditions = some []) : Lacks r .emptyConditions
  | connective {cs : List FlatCondition} {name : String} (hcs : r.conditions = some cs)
      (hne : cs ≠ []) (hname : r.logicalOperator = some name) (h : ∀ k, ¬ Joins (some name) k) :
      Lacks r (.unknownConnective (Text.trimmed name))
  | operator {k : Connective} {front back : List FlatCondition} {c : FlatCondition}
      (hcs : r.conditions = some (front ++ c :: back)) (hk : Joins r.logicalOperator k)
      (hfront : ∀ d ∈ front, d.operator ∈ Operator.keywords) (h : c.operator ∉ Operator.keywords) :
      Lacks r (.unknownOperator c.operator c.fieldName)

theorem lacks_of_flatTree (hcs : r.conditions = some cs) (h : r.flatTree cs = .error e) :
    r.Lacks e := by
  cases cs with
  | nil =>
    cases h
    exact .condition hcs
  | cons c cs =>
    unfold flatTree at h
    cases hk : r.connective with
    | error e' =>
      obtain rfl : e' = e := by simpa [hk, bind, Except.bind] using h
      obtain ⟨hnone, rfl⟩ := connective_eq_error_iff.1 hk
      cases hname : r.logicalOperator with
      | none => exact absurd .absent (hname ▸ hnone .and)
      | some name => exact .connective hcs (List.cons_ne_nil _ _) hname (hname ▸ hnone)
    | ok k =>
      have hitems : (c :: cs).mapM FlatCondition.toTree = .error e := by
        cases hts : (c :: cs).mapM FlatCondition.toTree <;>
          simp_all [bind, Except.bind, pure, Except.pure]
      obtain ⟨front, d, back, hsplit, hfront, hd⟩ := mapM_eq_error_iff.1 hitems
      obtain ⟨hop, rfl⟩ := FlatCondition.toTree_eq_error_iff.1 hd
      refine .operator (hsplit ▸ hcs) (connective_eq_ok_iff.1 hk) (fun x hx ↦ ?_) hop
      obtain ⟨u, hu⟩ := hfront x hx
      obtain ⟨y, hy, -⟩ := FlatCondition.toTree_eq_ok_iff_describes.1 hu
      exact FlatCondition.exists_describes_iff.1 ⟨y, hy⟩

/-! ### The tree -/

theorem tree_of_document (hdocument : r.document? = some v) : r.tree = Tree.ofDocument v := by
  rw [tree, hdocument]

/-- The tree of a record without a document. -/
theorem tree_eq_ok_iff (hdocument : r.document? = none) : r.tree = .ok t ↔
    ∃ cs k ds, r.conditions = some cs ∧ cs ≠ [] ∧ Joins r.logicalOperator k ∧
      List.Forall₂ FlatCondition.Describes cs ds ∧ t = .group k (ds.map .condition) := by
  rw [tree, hdocument]
  cases r.conditions with
  | none => simp
  | some cs =>
    simp only [mapError_eq_ok_iff, flatTree_eq_ok_iff_describes]
    constructor
    · rintro ⟨hne, k, ds, hk, hds, rfl⟩
      exact ⟨cs, k, ds, rfl, hne, hk, hds, rfl⟩
    · rintro ⟨_, k, ds, ⟨⟩, hne, hk, hds, rfl⟩
      exact ⟨hne, k, ds, hk, hds, rfl⟩

/-- The error of a record without a document. -/
theorem tree_eq_error_iff (hdocument : r.document? = none) {e : LoadError} : r.tree = .error e ↔
    ∃ fault, r.Lacks fault ∧ e = .tree fault := by
  constructor
  · intro h
    rw [tree, hdocument] at h
    cases hcs : r.conditions with
    | none =>
      rw [hcs] at h
      cases h
      exact ⟨_, .conditions hcs, rfl⟩
    | some cs =>
      rw [hcs] at h
      obtain ⟨fault, hflat, rfl⟩ := mapError_eq_error_iff.1 h
      exact ⟨fault, lacks_of_flatTree hcs hflat, rfl⟩
  · rintro ⟨_, hlacks, rfl⟩
    rw [tree, hdocument]
    cases hlacks with
    | conditions h => rw [h]
    | condition h => rw [h]; rfl
    | @connective cs name hcs hne hname h =>
      have hk : r.connective = .error (.unknownConnective (Text.trimmed name)) :=
        connective_eq_error_iff.2 ⟨hname ▸ h, by rw [hname]; rfl⟩
      rw [hcs]
      exact mapError_eq_error_iff.2 ⟨_, by simp [flatTree, hne, hk, bind, Except.bind], rfl⟩
    | @operator k front back c hcs hk hfront h =>
      have hitems : (front ++ c :: back).mapM FlatCondition.toTree =
          .error (.unknownOperator c.operator c.fieldName) := by
        refine mapM_eq_error_iff.2 ⟨front, c, back, rfl, fun d hd ↦ ?_,
          FlatCondition.toTree_eq_error_iff.2 ⟨h, rfl⟩⟩
        obtain ⟨y, hy⟩ := FlatCondition.exists_describes_iff.2 (hfront d hd)
        exact ⟨_, FlatCondition.toTree_eq_ok_iff_describes.2 ⟨y, hy, rfl⟩⟩
      rw [hcs]
      refine mapError_eq_error_iff.2 ⟨_, ?_, rfl⟩
      simp [flatTree, connective_eq_ok_iff.2 hk, hitems, bind, Except.bind]

theorem exists_describesAll_iff : (∃ ds, List.Forall₂ FlatCondition.Describes cs ds) ↔
    ∀ c ∈ cs, c.operator ∈ Operator.keywords := by
  simp only [← FlatCondition.exists_describes_iff]
  induction cs with
  | nil => simp
  | cons c cs ih =>
    rw [List.forall_mem_cons, ← ih]
    constructor
    · rintro ⟨_, _ | ⟨hd, hds⟩⟩
      exact ⟨⟨_, hd⟩, _, hds⟩
    · rintro ⟨⟨d, hd⟩, ds, hds⟩
      exact ⟨d :: ds, .cons hd hds⟩

/-- A record with a document has the tree of that document and nothing else counts. Any other record
has a tree exactly if it has conditions, each with a keyword for its operator, and names a
connective. That tree is one group of these conditions. -/
theorem tree_exact (r : Record) :
    (∀ v, r.conditionTree = some v → v ≠ .null → r.tree = Tree.ofDocument v) ∧
    (r.conditionTree = none ∨ r.conditionTree = some .null →
      ((∃ t, r.tree = .ok t) ↔ ∃ cs, r.conditions = some cs ∧ cs ≠ [] ∧
        (∀ c ∈ cs, c.operator ∈ Operator.keywords) ∧ ∃ k, Joins r.logicalOperator k) ∧
      ∀ t, r.tree = .ok t → ∃ cs k ds, r.conditions = some cs ∧ Joins r.logicalOperator k ∧
        List.Forall₂ FlatCondition.Describes cs ds ∧ t = .group k (ds.map .condition)) := by
  refine ⟨fun v hv hnull ↦ tree_of_document (document?_eq_some_iff.2 ⟨hv, hnull⟩), fun hnone ↦ ?_⟩
  have hok {t : Tree} := tree_eq_ok_iff (t := t) (document?_eq_none_iff.2 hnone)
  refine ⟨⟨?loaded, ?loads⟩, ?shape⟩
  case loaded =>
    rintro ⟨t, ht⟩
    obtain ⟨cs, k, ds, hcs, hne, hk, hds, -⟩ := hok.1 ht
    exact ⟨cs, hcs, hne, exists_describesAll_iff.1 ⟨ds, hds⟩, k, hk⟩
  case loads =>
    rintro ⟨cs, hcs, hne, hops, k, hk⟩
    obtain ⟨ds, hds⟩ := exists_describesAll_iff.2 hops
    exact ⟨_, hok.2 ⟨cs, k, ds, hcs, hne, hk, hds, rfl⟩⟩
  case shape =>
    intro t ht
    obtain ⟨cs, k, ds, hcs, -, hk, hds, rfl⟩ := hok.1 ht
    exact ⟨cs, k, ds, hcs, hk, hds, rfl⟩

/-- A record with null for its document and a name between blanks, and one whose document counts
although nothing else in it is right. -/
theorem tree_exact_of_older_and_newer :
    let older : Record := { empty with
      conditionTree := some .null
      conditions := some [⟨"a", "not_equals", "x"⟩, ⟨"", "case_sensitive_contains", "y"⟩]
      logicalOperator := some " Any\t" }
    let v := Tree.envelope (.condition ⟨"b", ⟨.equals, false, false⟩, "z"⟩)
    let newer : Record := { empty with
      conditionTree := some v
      conditions := some [⟨"a", "is", "x"⟩]
      logicalOperator := some "xor" }
    (∃ t, older.tree = .ok t) ∧
      older.tree.toOption = some (.group .or [.condition ⟨"a", ⟨.equals, true, false⟩, "x"⟩,
        .condition ⟨"", ⟨.contains, false, true⟩, "y"⟩]) ∧
      newer.tree = Tree.ofDocument v := by
  intro older v newer
  refine ⟨?_, by decide +kernel, (tree_exact newer).1 v rfl (by simp [v, Tree.envelope])⟩
  exact ((tree_exact older).2 (.inr rfl)).1.2
    ⟨_, rfl, List.cons_ne_nil _ _, by decide +kernel, .or, .named (by decide +kernel)⟩

end Record

end FilterLang
