import FilterLang.Proofs.Agreement
import FilterLang.Proofs.Beginning
import Mathlib.Data.Fintype.EquivFin

/-!
# Conditions that validation does not see

Validation looks at the fields of the conditions that it finds beside the catalog, and the tree is
read without one. A catalog may name any words its fields, and a word that it claims is no
connective for validation but still one for the reader. The condition after it is then part of the
tree, but no shape is found for it, and nobody looks at its field (`valid_of_hidden_condition`).

This is the only way to hide a field. A claimed modifier or operator leaves a condition without a
clear shape (`clear_condition`), so where no connective of a text is claimed, validity means that
all its fields are known. `fields_of_valid` says this, and which catalogs are safe for every text.
-/

namespace FilterLang

open Grammar

/-! ### Claimed words -/

/-- Whether a word is a connective where no catalog claims it: `and` or `or` in any ASCII case. -/
def IsConnectiveWord (w : String) : Prop := Text.asciiLowered w ∈ ["and", "or"]

instance (w : String) : Decidable (IsConnectiveWord w) :=
  inferInstanceAs (Decidable (_ ∈ _))

/-- A bare word that the language makes a connective is one of the connective words. -/
theorem isConnectiveWord_of_reserved {w : String} {k : Connective} (hw : IsBareWord w)
    (h : Role.reserved w = .connective k) : IsConnectiveWord w := by
  have hne : ¬ Connective.ofWord? w = none := by simp [(reserved_eq_connective_iff.1 h).2]
  rw [ofWord?_connective_eq_none_iff hw] at hne
  rw [IsConnectiveWord, List.mem_cons, List.mem_singleton]
  tauto

namespace Catalog

/-- Whether a text has a connective that the catalog claims for a field. -/
def Hides (catalog : Catalog) (text : String) : Prop :=
  ∃ t ∈ tokenize catalog text, t.lexeme.kind = .field ∧ IsConnectiveWord t.text

/-- Whether a catalog can hide a condition: it claims a connective, and beside it there is a
condition that it does not hide, with a field that can be named and an operator that is not claimed.
-/
def CanHide (catalog : Catalog) : Prop :=
  (∃ name ∈ catalog.names, IsConnectiveWord name) ∧ (∃ name ∈ catalog.names, IsFieldName name) ∧
    ∃ o : Operator, catalog.contains o.keyword = false

end Catalog

namespace Lexeme

variable {catalog : Catalog} {l : Lexeme}

theorem chars_recast (l : Lexeme) : (l.recast catalog).chars = l.chars := by
  cases l <;> rfl

/-- A catalog leaves a lexeme as it is or claims it for a field. -/
theorem recast_cases (catalog : Catalog) (hl : l.recast ∅ = l) :
    l.recast catalog = l ∨
      ∃ w r, l = .word w r ∧ l.recast catalog = .word w .field ∧ catalog.contains w = true := by
  cases l with
  | word w r =>
    rw [recast, Role.ofWord_empty, word.injEq] at hl
    obtain ⟨-, rfl⟩ := hl
    rw [recast, Role.ofWord]
    cases hc : catalog.contains w with
    | false => exact .inl rfl
    | true => exact .inr ⟨w, _, rfl, rfl, hc⟩
  | _ => exact .inl rfl

theorem content?_recast (l : Lexeme) : (l.recast catalog).content? = l.content? := by
  cases l <;> rfl

/-- A catalog keeps the names of fields. -/
theorem name?_recast {w : String} (hl : l.recast ∅ = l) (h : l.name? = some w) :
    (l.recast catalog).name? = some w := by
  rcases recast_cases catalog hl with hsame | ⟨v, r, rfl, hclaimed, -⟩
  · rw [hsame, h]
  · rw [hclaimed]
    cases r <;> simp_all [name?]

/-- A catalog makes nothing else of an operator than a field. -/
theorem modifier?_recast {o : Operator} (hl : l.recast ∅ = l) (h : l.operator? = some o) :
    (l.recast catalog).modifier? = none := by
  rcases recast_cases catalog hl with hsame | ⟨w, r, -, hclaimed, -⟩
  · rw [hsame]
    exact modifier?_eq_none_of_operator? h
  · rw [hclaimed]
    rfl

theorem kind_eq_field_iff : l.kind = .field ↔ ∃ w, l = .word w .field := by
  rcases l with ⟨v, _ | _ | _ | _ | _⟩ | _ | _ | _ | _ | _ | _ | _ <;> simp [kind]

theorem operator?_of_kind_field (h : l.kind = .field) : l.operator? = none := by
  obtain ⟨w, rfl⟩ := kind_eq_field_iff.1 h
  rfl

/-- Only names of the catalog are fields. -/
theorem contains_of_ofWord_eq_field {w : String} (h : Role.ofWord catalog w = .field) :
    catalog.contains w = true := by
  by_contra hc
  rw [Role.ofWord, if_neg hc] at h
  exact Role.reserved_ne_field w h

/-- A word becomes a field only if the catalog has it. -/
theorem contains_of_kind_recast {w : String} (h : l.name? = some w)
    (hkind : (l.recast catalog).kind = .field) : catalog.contains w = true := by
  obtain ⟨r, rfl, -⟩ := name?_eq_some_iff.1 h
  obtain ⟨v, hv⟩ := kind_eq_field_iff.1 hkind
  exact contains_of_ofWord_eq_field (word.inj hv).2

/-- A word stays an operator only if the catalog does not have it. -/
theorem contains_keyword_of_recast {o : Operator} (h : (l.recast catalog).operator? = some o) :
    catalog.contains o.keyword = false := by
  cases l with
  | word w r =>
    rw [recast, Role.ofWord] at h
    cases hc : catalog.contains w with
    | true => simp [hc, operator?] at h
    | false =>
      have hrole : Role.reserved w = .operator o := by
        cases hr : Role.reserved w <;> simp_all [operator?]
      rwa [Operator.keyword_of_ofKeyword? (reserved_eq_operator_iff.1 hrole)]
  | _ => simp [recast, operator?] at h

theorem recast_of_mem_cut {cs : List Char} (h : l ∈ cut ∅ cs) : l.recast ∅ = l := by
  cases l with
  | word w r =>
    obtain ⟨-, rfl⟩ := of_word_mem_cut h
    rfl
  | _ => rfl

end Lexeme

namespace Token

/-- A token with the role that a catalog gives it, if it is a word. -/
def recast (catalog : Catalog) (t : Token) : Token := ⟨t.lexeme.recast catalog, t.start⟩

/-- Whether a token has the role that the language gives it. -/
def IsReservedRole (t : Token) : Prop := t.lexeme.recast ∅ = t.lexeme

variable {catalog : Catalog}

theorem place_map_recast (start : Nat) (ls : List Lexeme) :
    place start (ls.map (Lexeme.recast catalog)) = (place start ls).map (recast catalog) := by
  induction ls generalizing start with
  | nil => rfl
  | cons l ls ih =>
    rw [List.map_cons, place, place, Lexeme.chars_recast, ih]
    rfl

/-- The tokens beside a catalog are those without one, with other roles. -/
theorem tokenize_eq_map_recast (catalog : Catalog) (text : String) :
    tokenize catalog text = (tokenize ∅ text).map (recast catalog) := by
  rw [tokenize, Lexeme.cut_eq_map_recast ∅ catalog, place_map_recast]
  rfl

theorem significant_map_recast (ts : List Token) :
    significant (ts.map (recast catalog)) = (significant ts).map (recast catalog) := by
  rw [significant, significant, List.filter_map]
  congr 2
  funext t
  exact congrArg _ (Lexeme.isBlank_recast t.lexeme)

end Token

/-! ### Clear shapes -/

namespace Check.Shape

variable {catalog : Catalog} {s : Shape} {field t u : Token} {ts rest toks : List Token}

/-- Whether a shape has a field of the catalog and an operator. -/
structure IsClear (s : Shape) : Prop where
  field : s.field.lexeme.kind = .field
  operator : ∃ t, s.operator = some t ∧ t.lexeme.operator?.isSome

/-- A shape in which no check finds anything wrong is clear. A wrong operator that is a known
misspelling is left to the check of the structure, and any other one to that of the operators. -/
theorem isClear_of_errors (hfield : (checkField catalog s).errors = [])
    (hoperator : (checkOperator s).errors = []) (hword : (Structure.misspelled s).errors = []) :
    s.IsClear := by
  obtain ⟨field, operator, value⟩ := s
  have hkind : field.lexeme.kind = .field := by
    obtain ⟨⟨w, _ | _ | _ | _ | _⟩ | _ | _ | _ | _ | _ | _ | _, start⟩ := field <;>
      simp_all [checkField, Lexeme.kind, Report.errorOn, Report.errorAt]
  have hnone := Lexeme.operator?_of_kind_field hkind
  refine ⟨hkind, ?_⟩
  cases operator with
  | none => simp [checkOperator, hnone, Report.errorOn, Report.errorAt] at hoperator
  | some t =>
    refine ⟨t, rfl, ?_⟩
    cases hop : t.lexeme.operator? with
    | some op => rfl
    | none =>
      cases hfix : knownMisspelling? t.text with
      | some fix => simp [Structure.misspelled, hop, hfix, Report.errorOn, Report.errorAt] at hword
      | none =>
        simp [checkOperator, hnone, hop, hfix, Report.errorOn, Report.errorAt] at hoperator

/-- If no check finds anything wrong with a text, all its shapes are clear. -/
theorem isClear_of_isClean {text : String} (h : Validation.IsClean catalog text) :
    ∀ s ∈ ofTokens (Token.significant (tokenize catalog text)), s.IsClear := by
  obtain ⟨hstructural, -, hfields, hoperators, -⟩ := h
  generalize Token.significant (tokenize catalog text) = ts at *
  intro s hs
  have hne : ts.isEmpty = false := by
    cases ts with
    | nil => simp [ofTokens, scan] at hs
    | cons => rfl
  rw [checkFields, Report.errors_join, List.flatMap_map, List.flatMap_eq_nil_iff] at hfields
  rw [checkOperators, Report.errors_join, List.flatMap_map, List.flatMap_eq_nil_iff] at hoperators
  rw [checkStructure, hne, if_neg Bool.false_ne_true, Report.errors_append, Report.errors_join,
    List.flatMap_map, List.append_eq_nil_iff, List.flatMap_eq_nil_iff] at hstructural
  exact isClear_of_errors (hfields s hs) (hoperators s hs) (hstructural.2 s hs)

/-! ### The shape of a condition beside a catalog -/

/-- Where a condition may start, the first token that is no modifier is its field. -/
theorem scan_true_of_afterModifiers (h : afterModifiers ts = field :: rest)
    (hf : field.isPlainWord = true) :
    scan true ts = (ofField field rest).1 :: scan false (ofField field rest).2 := by
  cases ts with
  | nil => cases h
  | cons t ts =>
    refine scan_true_cons ?_ h hf
    cases hm : t.lexeme.modifier? with
    | some m =>
      obtain ⟨⟨w, _ | _ | _ | _ | _⟩ | _ | _ | _ | _ | _ | _ | _, start⟩ := t <;>
        simp_all [Lexeme.modifier?, Token.opensCondition, Lexeme.connective?]
    | none =>
      rw [afterModifiers, List.dropWhile_cons, if_neg (by simp [hm])] at h
      obtain ⟨rfl, rfl⟩ := List.cons.inj h
      obtain ⟨⟨w, _ | _ | _ | _ | _⟩ | _ | _ | _ | _ | _ | _ | _, start⟩ := t <;>
        simp_all [Token.isPlainWord, Token.opensCondition, Lexeme.isWord, Lexeme.connective?]

theorem field_ofField (field : Token) (ts : List Token) : (ofField field ts).1.field = field := by
  unfold ofField
  split
  · split
    · split
      · split <;> rfl
      · rfl
    · rfl
  · rfl

/-- A shape is not clear where what follows the field is no operator. -/
theorem operator?_of_isClear_ofField (h : afterModifiers ts = t :: rest)
    (hclear : (ofField field ts).1.IsClear) : t.lexeme.operator?.isSome := by
  obtain ⟨u, hu, hop⟩ := hclear.operator
  have hut : (ofField field ts).1.operator = some t ∨ (ofField field ts).1.operator = none := by
    unfold ofField
    rw [h]
    dsimp only
    split
    · split
      · split <;> exact .inl rfl
      · exact .inl rfl
    · exact .inr rfl
  rcases hut with hut | hut
  · rw [hut] at hu
    exact Option.some.inj hu ▸ hop
  · rw [hut] at hu
    cases hu

theorem isPlainWord_of_kind_field (h : t.lexeme.kind = .field) : t.isPlainWord = true := by
  obtain ⟨w, hw⟩ := Lexeme.kind_eq_field_iff.1 h
  rw [Token.isPlainWord, hw]
  rfl

/-- Whether tokens are modifiers where no catalog claims them. -/
def AreModifiers (ts : List Token) : Prop :=
  ∀ t ∈ ts, t.IsReservedRole ∧ t.lexeme.modifier?.isSome

/-- Beside a catalog modifiers are passed over up to the first token that is none, or to the first
of them that the catalog claims for a field. -/
theorem afterModifiers_recast (catalog : Catalog) (htoks : AreModifiers toks)
    (hu : u.lexeme.modifier? = none) :
    afterModifiers (toks.map (Token.recast catalog) ++ u :: rest) = u :: rest ∨
      ∃ claimed toks', claimed.lexeme.kind = .field ∧ AreModifiers toks' ∧
        afterModifiers (toks.map (Token.recast catalog) ++ u :: rest) =
          claimed :: (toks'.map (Token.recast catalog) ++ u :: rest) := by
  induction toks with
  | nil =>
    rw [List.map_nil, List.nil_append, afterModifiers, List.dropWhile_cons, if_neg (by simp [hu])]
    exact .inl rfl
  | cons t toks ih =>
    obtain ⟨⟨hrole, hmodifier⟩, htail⟩ := List.forall_mem_cons.1 htoks
    rw [List.map_cons, List.cons_append, afterModifiers, List.dropWhile_cons]
    rcases Lexeme.recast_cases catalog hrole with h | ⟨w, r, -, h, -⟩
    · have hpass : (t.recast catalog).lexeme.modifier?.isSome = true := by
        show (t.lexeme.recast catalog).modifier?.isSome = true
        rwa [h]
      rw [if_pos hpass]
      exact ih htail
    · have hclaimed : (t.recast catalog).lexeme = .word w .field := h
      rw [if_neg (by simp [hclaimed, Lexeme.modifier?])]
      exact .inr ⟨t.recast catalog, toks, by rw [hclaimed]; rfl, htail, rfl⟩

/-- If the catalog claims one of the modifiers that stand between a field and what is no operator,
or none of them, the shape is not clear. -/
theorem not_isClear_ofField (catalog : Catalog) (htoks : AreModifiers toks)
    (hu : u.lexeme.modifier? = none) (hop : u.lexeme.operator? = none) :
    ¬ (ofField field (toks.map (Token.recast catalog) ++ u :: rest)).1.IsClear := by
  intro hclear
  rcases afterModifiers_recast catalog htoks hu with h | ⟨claimed, toks', hkind, -, h⟩
  · have hsome := operator?_of_isClear_ofField h hclear
    simp [hop] at hsome
  · have hsome := operator?_of_isClear_ofField h hclear
    simp [Lexeme.operator?_of_kind_field hkind] at hsome

/-- After a field with an operator and a value, a clear shape has both of them: the catalog claims
neither the operator nor a modifier in front of it. -/
theorem ofField_of_isClear {tok tv : Token} {op : Operator} {v : String}
    (htoks : AreModifiers toks) (hrole : tok.IsReservedRole) (hop : tok.lexeme.operator? = some op)
    (hvalue : tv.lexeme.content? = some v)
    (hclear : (ofField field (toks.map (Token.recast catalog) ++
      tok.recast catalog :: tv.recast catalog :: rest)).1.IsClear) :
    (∃ o : Operator, catalog.contains o.keyword = false) ∧
      (ofField field (toks.map (Token.recast catalog) ++
        tok.recast catalog :: tv.recast catalog :: rest)).2 = rest := by
  have hmod : (tok.recast catalog).lexeme.modifier? = none := Lexeme.modifier?_recast hrole hop
  rcases afterModifiers_recast catalog htoks hmod with h | ⟨claimed, toks', hkind, -, h⟩
  · obtain ⟨o, ho⟩ := Option.isSome_iff_exists.1 (operator?_of_isClear_ofField h hclear)
    have hcontent : (tv.recast catalog).lexeme.content? = some v :=
      (Lexeme.content?_recast tv.lexeme).trans hvalue
    have hbound : (tv.recast catalog).isBoundary = false :=
      isBoundary_of_isPart (.inr (.inr (.inr (by simp [hcontent]))))
    refine ⟨⟨o, Lexeme.contains_keyword_of_recast ho⟩, ?_⟩
    rw [ofField, h]
    simp [isPlainWord_of_operator? ho, hbound]
  · -- A claimed modifier stands in the place of the operator.
    have hsome := operator?_of_isClear_ofField h hclear
    simp [Lexeme.operator?_of_kind_field hkind] at hsome

variable {c : Condition}

/-- A condition beside a catalog has one shape. If it is clear, it is the condition's own: the
catalog has the field and did not claim the operator. -/
theorem clear_condition (h : IsCondition (toks.map Token.lexeme) c)
    (hroles : ∀ t ∈ toks, t.IsReservedRole)
    (hclear : ∀ s ∈ scan true (toks.map (Token.recast catalog) ++ rest), s.IsClear) :
    catalog.contains c.field = true ∧ (∃ o : Operator, catalog.contains o.keyword = false) ∧
      ∀ s ∈ scan false rest, s.IsClear := by
  obtain ⟨before, tn, after, tok, tv, ms, ns, op, rfl, hbefore, hname, hafter, hop, hvalue, -,
    -⟩ := isCondition_tokens_iff.1 h
  have hbefore : AreModifiers before := fun t ht ↦
    ⟨hroles t (by simp [ht]), isSome_modifier?_of_mem hbefore (List.mem_map_of_mem ht)⟩
  have hafter : AreModifiers after := fun t ht ↦
    ⟨hroles t (by simp [ht]), isSome_modifier?_of_mem hafter (List.mem_map_of_mem ht)⟩
  have hname' : (tn.recast catalog).lexeme.name? = some c.field :=
    Lexeme.name?_recast (hroles tn (by simp)) hname
  have hmod := modifier?_eq_none_of_name? hname'
  have hsplit : (before ++ tn :: (after ++ [tok, tv])).map (Token.recast catalog) ++ rest =
      before.map (Token.recast catalog) ++ tn.recast catalog ::
        (after.map (Token.recast catalog) ++ tok.recast catalog :: tv.recast catalog :: rest) := by
    simp
  rw [hsplit] at hclear
  rcases afterModifiers_recast catalog hbefore hmod with hn | ⟨claimed, toks', hkind, htoks', hn⟩
  · rw [scan_true_of_afterModifiers hn (isPlainWord_of_name? hname')] at hclear
    obtain ⟨hshape, hrest⟩ := List.forall_mem_cons.1 hclear
    have hfield : (tn.recast catalog).lexeme.kind = .field := by
      have hkind := hshape.field
      rwa [field_ofField] at hkind
    obtain ⟨hkeyword, hend⟩ := ofField_of_isClear hafter (hroles tok (by simp)) hop hvalue hshape
    rw [hend] at hrest
    exact ⟨Lexeme.contains_of_kind_recast hname hfield, hkeyword, hrest⟩
  · -- With a claimed modifier for its field, the shape has the condition's field for its operator.
    rw [scan_true_of_afterModifiers hn (isPlainWord_of_kind_field hkind)] at hclear
    have hshape := hclear _ List.mem_cons_self
    have hnone := operator?_eq_none_of_name? hname'
    exact absurd hshape (not_isClear_ofField catalog htoks' hmod hnone)

/-! ### The shapes of a phrase beside a catalog -/

variable {n : Nat} {p : Phrase} {us : List Tree}

theorem scan_parentheses {opening closing : Token} (ho : opening.lexeme = .openParen) :
    scan true ((opening :: (toks ++ [closing])).map (Token.recast catalog) ++ rest) =
      scan true (toks.map (Token.recast catalog) ++ closing.recast catalog :: rest) := by
  have hopen : (opening.recast catalog).opensCondition = true := by
    simp [Token.recast, ho, Lexeme.recast, Token.opensCondition]
  rw [List.map_cons, List.cons_append, scan_of_opensCondition hopen]
  simp

theorem scan_closing {closing : Token} (hc : closing.lexeme = .closeParen) :
    scan false (closing.recast catalog :: rest) = scan false rest :=
  scan_false_cons (by simp [Token.recast, hc, Lexeme.recast, Token.opensCondition,
    Lexeme.connective?])

/-- Whether the connectives among tokens are still connectives beside a catalog. -/
def KeepsConnectives (catalog : Catalog) (toks : List Token) : Prop :=
  ∀ t ∈ toks, t.lexeme.connective?.isSome → (t.recast catalog).opensCondition = true

/-- What is known of a phrase if its shapes and those of what follows it are clear. -/
structure Shown (catalog : Catalog) (toks : List Token) (us : List Tree) (rest : List Token) :
    Prop where
  /-- The first condition of a phrase is never hidden. -/
  first : ∃ c ∈ Tree.leavesAll us, catalog.contains c.field = true
  operator : ∃ o : Operator, catalog.contains o.keyword = false
  /-- The others are not hidden either if no connective is claimed. -/
  all : KeepsConnectives catalog toks → ∀ c ∈ Tree.leavesAll us, catalog.contains c.field = true
  /-- And then what follows is looked at from the end of the phrase on. -/
  after : KeepsConnectives catalog toks → ∀ s ∈ scan false rest, s.IsClear

/-- What clear shapes beside a catalog say of a phrase. -/
theorem shown_of_isClear (h : Derives n p (toks.map Token.lexeme) us)
    (hroles : ∀ t ∈ toks, t.IsReservedRole)
    (hclear : ∀ s ∈ scan true (toks.map (Token.recast catalog) ++ rest), s.IsClear) :
    Shown catalog toks us rest := by
  revert rest
  refine h.token_induction (motive := fun _ toks us ↦ (∀ t ∈ toks, t.IsReservedRole) → ∀ {rest},
    (∀ s ∈ scan true (toks.map (Token.recast catalog) ++ rest), s.IsClear) →
      Shown catalog toks us rest)
    ?condition ?parentheses ?single ?joined hroles
  case condition =>
    intro toks c hc hroles rest hclear
    obtain ⟨hfield, hop, hrest⟩ := clear_condition hc hroles hclear
    have hleaves : Tree.leavesAll [.condition c] = [c] := rfl
    have hall : ∀ d ∈ Tree.leavesAll [.condition c], catalog.contains d.field = true := by
      rw [hleaves, List.forall_mem_singleton]
      exact hfield
    exact ⟨⟨c, hleaves ▸ List.mem_singleton_self c, hfield⟩, hop, fun _ ↦ hall, fun _ ↦ hrest⟩
  case parentheses =>
    intro opening toks closing us ho hc ih hroles rest hclear
    rw [scan_parentheses ho] at hclear
    obtain ⟨hfirst, hop, hall, hafter⟩ := ih (fun t ht ↦ hroles t (by simp [ht])) hclear
    have hleaves := Tree.leavesAll_ofChain_singleton .or us
    have hinner (h : KeepsConnectives catalog (opening :: (toks ++ [closing]))) :
        KeepsConnectives catalog toks := fun t ht ↦ h t (by simp [ht])
    refine ⟨hleaves ▸ hfirst, hop, fun h ↦ hleaves ▸ hall (hinner h), fun h ↦ ?_⟩
    rw [← scan_closing hc]
    exact hafter (hinner h)
  case single =>
    intro k toks us ih hroles rest hclear
    obtain ⟨hfirst, hop, hall, hafter⟩ := ih hroles hclear
    have hleaves := Tree.leavesAll_ofChain_singleton .and us
    exact ⟨hleaves ▸ hfirst, hop, hleaves ▸ hall, hafter⟩
  case joined =>
    intro k toks t toks' us us' ih ht ih' hroles rest hclear
    rw [List.map_append, List.append_assoc, List.map_cons, List.cons_append] at hclear
    obtain ⟨⟨c, hc, hfield⟩, hop, hall, hafter⟩ :=
      ih (fun u hu ↦ hroles u (by simp [hu])) hclear
    have hleaves := Tree.leavesAll_ofChain_cons .and us us'
    have hfront (h : KeepsConnectives catalog (toks ++ t :: toks')) :
        KeepsConnectives catalog toks := fun u hu ↦ h u (by simp [hu])
    have hback (h : KeepsConnectives catalog (toks ++ t :: toks')) :
        KeepsConnectives catalog toks' := fun u hu ↦ h u (by simp [hu])
    -- The connective is left alone, so the next condition starts after it.
    have hnext (h : KeepsConnectives catalog (toks ++ t :: toks')) :
        Shown catalog toks' us' rest := by
      have hrest := hafter (hfront h)
      rw [scan_of_opensCondition (h t (by simp) (by simp [ht]))] at hrest
      exact ih' (fun u hu ↦ hroles u (by simp [hu])) hrest
    refine ⟨⟨c, hleaves ▸ List.mem_append_left _ hc, hfield⟩, hop, fun h ↦ ?_,
      fun h ↦ (hnext h).after (hback h)⟩
    rw [hleaves, List.forall_mem_append]
    exact ⟨hall (hfront h), (hnext h).all (hback h)⟩

end Check.Shape

/-! ### Valid texts -/

variable {catalog : Catalog} {text : String}

/-- Only names of the catalog are fields. -/
theorem contains_text_of_kind_field {t : Token} (ht : t ∈ tokenize catalog text)
    (hkind : t.lexeme.kind = .field) : catalog.contains t.text = true := by
  have hcut := lexeme_mem_cut ht
  obtain ⟨w, hw⟩ := Lexeme.kind_eq_field_iff.1 hkind
  rw [hw] at hcut
  obtain ⟨-, hrole⟩ := Lexeme.of_word_mem_cut hcut
  rw [text_of_lexeme hw]
  exact Lexeme.contains_of_ofWord_eq_field hrole.symm

/-- A connective that a catalog does not hide stays one. -/
theorem opensCondition_recast {t : Token} (ht : t ∈ tokenize ∅ text)
    (hhides : ¬ catalog.Hides text) (hconn : t.lexeme.connective?.isSome) :
    (t.recast catalog).opensCondition = true := by
  have hcut := lexeme_mem_cut ht
  rcases Lexeme.recast_cases catalog (Lexeme.recast_of_mem_cut hcut) with h | ⟨w, r, hl, h, -⟩
  · show (_ || (t.lexeme.recast catalog).connective?.isSome) = true
    rw [h, hconn, Bool.or_true]
  · refine absurd ⟨t.recast catalog, ?_, ?_, ?_⟩ hhides
    · rw [Token.tokenize_eq_map_recast]
      exact List.mem_map_of_mem ht
    · show (t.lexeme.recast catalog).kind = .field
      rw [h]
      rfl
    · rw [hl] at hcut hconn
      obtain ⟨hw, rfl⟩ := Lexeme.of_word_mem_cut hcut
      have htext : (t.recast catalog).text = w := text_of_lexeme h
      rw [Role.ofWord_empty] at hconn
      rw [htext]
      cases hr : Role.reserved w with
      | connective k => exact isConnectiveWord_of_reserved hw hr
      | _ => simp [hr, Lexeme.connective?] at hconn

/-- A valid text has a tree. Its first condition names a field of the catalog, and so do all others
unless the catalog hides one. -/
theorem exists_tree_of_valid (h : (Validation.ofText catalog text).valid = true) :
    ∃ t, Tree.parse text = .ok t ∧ (∃ f ∈ t.fields, catalog.contains f = true) ∧
      (∃ o : Operator, catalog.contains o.keyword = false) ∧
      (catalog.Hides text ∨ ∀ f ∈ t.fields, catalog.contains f = true) := by
  obtain ⟨hclean, t, ht⟩ := Validation.valid_ofText_iff.1 h
  refine ⟨t, ht, ?_⟩
  obtain ⟨us, hd, rfl⟩ := Tree.parse_eq_ok_iff.1 ht
  have hclear := Check.Shape.isClear_of_isClean hclean
  rw [Token.tokenize_eq_map_recast, Token.significant_map_recast] at hclear
  rw [← Token.map_lexeme_significant] at hd
  have hmem : ∀ t ∈ Token.significant (tokenize ∅ text), t ∈ tokenize ∅ text :=
    fun t ht ↦ (List.mem_filter.1 ht).1
  have hroles : ∀ t ∈ Token.significant (tokenize ∅ text), t.IsReservedRole :=
    fun t ht ↦ Lexeme.recast_of_mem_cut (lexeme_mem_cut (hmem t ht))
  have hscan : ∀ s ∈ Check.Shape.scan true ((Token.significant (tokenize ∅ text)).map
      (Token.recast catalog) ++ []), s.IsClear := by
    rwa [List.append_nil]
  obtain ⟨⟨c, hc, hfield⟩, hop, hall, -⟩ := Check.Shape.shown_of_isClear hd hroles hscan
  rw [← Tree.leaves_ofChain .or] at hc hall
  refine ⟨⟨c.field, ?_, hfield⟩, hop, ?_⟩
  · rw [Tree.fields, List.mem_eraseDups]
    exact List.mem_map_of_mem hc
  · rw [Validation.forall_fields_iff]
    by_cases hhides : catalog.Hides text
    · exact .inl hhides
    · exact .inr (hall fun t ht ↦ opensCondition_recast (hmem t ht) hhides)

/-! ### Words to hide a condition with -/

theorem not_isReserved_of_head? {w : String} (h : w.toList.head? = some 'x') : ¬ IsReserved w := by
  have hkeywords : ∀ k ∈ Operator.keywords, k.toList.head? ≠ some 'x' := by decide +kernel
  have hwords : ∀ v ∈ ["and", "or", "not", "case_sensitive"], v.toList.head? ≠ some 'x' := by
    decide
  have hlowered : (Text.asciiLowered w).toList.head? = some 'x' := by
    rw [Text.toList_asciiLowered, List.head?_map, h]
    rfl
  rintro (hw | hw)
  · exact hkeywords w hw h
  · exact hwords _ hw hlowered

/-- There is always one more name for a field: of `x` alone, as often as no other name is long. -/
theorem exists_new_field (names : List String) : ∃ w, IsFieldName w ∧ w ∉ names := by
  obtain ⟨n, hn⟩ := Infinite.exists_notMem_finset (0 :: names.map String.length).toFinset
  rw [List.mem_toFinset, List.mem_cons, not_or] at hn
  obtain ⟨hpos, hlength⟩ := hn
  obtain ⟨m, rfl⟩ := Nat.exists_eq_succ_of_ne_zero hpos
  have hlist : (String.ofList (List.replicate (m + 1) 'x')).toList = List.replicate (m + 1) 'x' :=
    String.toList_ofList
  generalize String.ofList (List.replicate (m + 1) 'x') = w at hlist
  have hne : w ≠ "" := by
    rintro rfl
    cases hlist
  have hbare : ∀ c ∈ w.toList, isBareChar c = true := by
    intro c hc
    rw [hlist] at hc
    rw [List.eq_of_mem_replicate hc]
    decide
  refine ⟨w, ⟨⟨hne, hbare⟩, not_isReserved_of_head? (by rw [hlist]; rfl)⟩, fun hw ↦ hlength ?_⟩
  have hwlength : w.length = m + 1 := by
    rw [← String.length_toList, hlist, List.length_replicate]
  exact List.mem_map.2 ⟨w, hw, hwlength⟩

/-- Capitals are bare, and lowering keeps every other character. -/
theorem isBareChar_of_toLower {c : Char} (h : isBareChar c.toLower = true) :
    isBareChar c = true := by
  by_cases hc : c.val ≥ 'A'.val ∧ c.val ≤ 'Z'.val
  · have hupper : c.isUpper = true := decide_eq_true hc
    have hlt : c.toNat < 128 := by
      have hle := UInt32.le_iff_toNat_le.1 hc.2
      exact Nat.lt_of_le_of_lt hle (by decide)
    have halphanum : c.isAlphanum = true := by
      show (c.isUpper || c.isLower || c.isDigit) = true
      rw [hupper]
      rfl
    rw [isBareChar, Text.isWordChar_of_lt hlt, halphanum]
    rfl
  · have hself : c.toLower = c := dif_neg hc
    rwa [hself] at h

theorem isBareWord_of_isConnectiveWord {w : String} (h : IsConnectiveWord w) : IsBareWord w := by
  have hlowered : IsBareWord (Text.asciiLowered w) := by
    rw [IsConnectiveWord] at h
    generalize Text.asciiLowered w = v at h
    simp only [List.mem_cons, List.not_mem_nil, or_false] at h
    rcases h with rfl | rfl <;> decide
  have hne : w ≠ "" := by
    rintro rfl
    exact absurd h (by decide)
  refine ⟨hne, fun c hc ↦ isBareChar_of_toLower (hlowered.2 _ ?_)⟩
  rw [Text.toList_asciiLowered]
  exact List.mem_map_of_mem hc

theorem reserved_of_isConnectiveWord {w : String} (h : IsConnectiveWord w) :
    ∃ k, Role.reserved w = .connective k := by
  have hkeyword : Operator.ofKeyword? w = none := by
    have hwords : ∀ k ∈ Operator.keywords, ¬ IsConnectiveWord k := by decide +kernel
    exact ofKeyword?_eq_none_iff.2 fun hw ↦ hwords w hw h
  have hand : Text.asciiLowered Connective.and.keyword = "and" := by decide
  have hor : Text.asciiLowered Connective.or.keyword = "or" := by decide
  cases hc : Connective.ofWord? w with
  | some k => exact ⟨k, reserved_eq_connective_iff.2 ⟨hkeyword, hc⟩⟩
  | none =>
    simp [Connective.ofWord?, Text.sameWord, hand, hor, IsConnectiveWord] at hc h
    tauto

theorem reserved_keyword (o : Operator) : Role.reserved o.keyword = .operator o :=
  reserved_eq_operator_iff.2 (Operator.ofKeyword?_keyword o)

theorem isBareWord_keyword (o : Operator) : IsBareWord o.keyword := by
  obtain ⟨c, n, s⟩ := o
  cases c <;> cases n <;> cases s <;> decide

/-! ### A text that hides a condition -/

/-- The lexemes of a condition with an empty value. -/
def blankCondition (field : String) (o : Operator) : List Lexeme :=
  [.word field .unknown, .word o.keyword (.operator o), .quoted '"' ""]

theorem isCondition_blank (field : String) (o : Operator) :
    IsCondition (blankCondition field o) ⟨field, o, ""⟩ := by
  have hnil : ([] : List Lexeme).map Lexeme.modifier? = ([] : List Modifier).map some := rfl
  have h : IsCondition (blankCondition field o) ⟨field, o.comparison.qualified o.modifiers, ""⟩ :=
    .intro hnil rfl hnil rfl rfl (Condition.nodup_modifiers o)
  rwa [Condition.qualified_modifiers] at h

theorem isSeparable_blank {field : String} (h : IsFieldName field) (o : Operator) :
    ∀ l ∈ blankCondition field o, l.IsSeparable := by
  have hfield := Lexeme.isSeparable_word h.1
  have hop := Lexeme.isSeparable_word (isBareWord_keyword o)
  rw [(reserved_eq_unknown_iff h.1).2 h.2] at hfield
  rw [reserved_keyword] at hop
  intro l hl
  simp only [blankCondition, List.mem_cons, List.not_mem_nil, or_false] at hl
  rcases hl with rfl | rfl | rfl
  · exact hfield
  · exact hop
  · exact Lexeme.isSeparable_quoted (.inl rfl) (by simp)

/-- Two conditions with a connective between them. -/
def joinedConditions (field hidden word : String) (k : Connective) (o : Operator) : List Lexeme :=
  blankCondition field o ++ .word word (.connective k) :: blankCondition hidden o

theorem derives_joined (field hidden word : String) (k : Connective) (o : Operator) (n : Nat) :
    ∃ us, Derives n (.chain .or) (joinedConditions field hidden word k o) us ∧
      Tree.leavesAll us = [⟨field, o, ""⟩, ⟨hidden, o, ""⟩] := by
  have hfirst := Derives.condition (n := n) (isCondition_blank field o)
  have hsecond := Derives.condition (n := n) (isCondition_blank hidden o)
  cases k with
  | and =>
    have hchain : Derives n (.chain .and) (joinedConditions field hidden word .and o) _ :=
      .joined hfirst rfl (.single hsecond)
    exact ⟨_, .single hchain, rfl⟩
  | or =>
    have hfirst : Derives n (.chain .and) _ _ := .single hfirst
    have hsecond : Derives n (.chain .and) _ _ := .single hsecond
    exact ⟨_, .joined hfirst rfl (.single hsecond), rfl⟩

variable {field hidden word : String} {k : Connective} {o : Operator}

/-- A text of two conditions, with blanks between all their parts. -/
def joinedText (field hidden word : String) (k : Connective) (o : Operator) : String :=
  .ofList (Lexeme.spaced (joinedConditions field hidden word k o))

theorem significant_joinedText (hfield : IsFieldName field) (hhidden : IsFieldName hidden)
    (hword : IsBareWord word) (hrole : Role.reserved word = .connective k) :
    Lexeme.significant ∅ (joinedText field hidden word k o).toList =
      joinedConditions field hidden word k o := by
  rw [joinedText, String.toList_ofList]
  refine Lexeme.significant_spaced fun l hl ↦ ?_
  have hconnective := Lexeme.isSeparable_word hword
  rw [hrole] at hconnective
  rcases List.mem_append.1 hl with hl | hl
  · exact isSeparable_blank hfield o l hl
  · rcases List.mem_cons.1 hl with rfl | hl
    · exact hconnective
    · exact isSeparable_blank hhidden o l hl

/-- The tokens of such a text beside a catalog that claims the connective for a field: the second
condition goes on where the first one ends. -/
def claimedTokens (field hidden word : String) (o : Operator) (starts : Nat → Nat) :
    List Token := [
  ⟨.word field .field, starts 0⟩, ⟨.word o.keyword (.operator o), starts 1⟩,
  ⟨.quoted '"' "", starts 2⟩, ⟨.word word .field, starts 3⟩, ⟨.word hidden .unknown, starts 4⟩,
  ⟨.word o.keyword (.operator o), starts 5⟩, ⟨.quoted '"' "", starts 6⟩]

/-- Only the first condition has a shape. -/
theorem ofTokens_claimedTokens (starts : Nat → Nat) :
    Check.Shape.ofTokens (claimedTokens field hidden word o starts) =
      [⟨⟨.word field .field, starts 0⟩, some ⟨.word o.keyword (.operator o), starts 1⟩,
        some ⟨.quoted '"' "", starts 2⟩⟩] := by
  rw [Check.Shape.ofTokens, claimedTokens, Check.Shape.scan_true_of_afterModifiers rfl rfl]
  show _ :: Check.Shape.scan false [_, _, _, _] = _
  rw [Check.Shape.scan_false_cons rfl, Check.Shape.scan_false_cons rfl,
    Check.Shape.scan_false_cons rfl, Check.Shape.scan_false_cons rfl, Check.Shape.scan]
  rfl

theorem exists_claimedTokens (hfield : IsFieldName field) (hhidden : IsFieldName hidden)
    (hword : IsBareWord word) (hrole : Role.reserved word = .connective k)
    (hknown : catalog.contains field = true) (hclaimed : catalog.contains word = true)
    (hop : catalog.contains o.keyword = false) (hunknown : catalog.contains hidden = false) :
    ∃ starts, Token.significant (tokenize catalog (joinedText field hidden word k o)) =
      claimedTokens field hidden word o starts := by
  have hunreserved : Role.reserved hidden = .unknown :=
    (reserved_eq_unknown_iff hhidden.1).2 hhidden.2
  have hlex := Token.map_lexeme_significant catalog (joinedText field hidden word k o)
  rw [Lexeme.significant_eq_map_recast ∅ catalog,
    significant_joinedText hfield hhidden hword hrole] at hlex
  generalize Token.significant (tokenize catalog (joinedText field hidden word k o)) = ts at hlex
  have hroles : ts.map Token.lexeme =
      (claimedTokens field hidden word o fun _ ↦ 0).map Token.lexeme := by
    rw [hlex]
    simp [joinedConditions, blankCondition, claimedTokens, Lexeme.recast, Role.ofWord, hknown,
      hclaimed, hop, hunknown, hunreserved, reserved_keyword]
  refine ⟨fun i ↦ (ts.map Token.start).getD i 0, ?_⟩
  simp only [claimedTokens, List.map_cons, List.map_nil, List.map_eq_cons_iff,
    List.map_eq_nil_iff] at hroles
  obtain ⟨⟨_, _⟩, _, rfl, rfl, ⟨_, _⟩, _, rfl, rfl, ⟨_, _⟩, _, rfl, rfl, ⟨_, _⟩, _, rfl, rfl,
    ⟨_, _⟩, _, rfl, rfl, ⟨_, _⟩, _, rfl, rfl, ⟨_, _⟩, _, rfl, rfl, rfl⟩ := hroles
  rfl

/-- So no check finds anything wrong. -/
theorem isClean_of_claimedTokens {starts : Nat → Nat}
    (hts : Token.significant (tokenize catalog text) = claimedTokens field hidden word o starts)
    (hparens : (Check.checkParentheses text).errors = []) : Validation.IsClean catalog text := by
  constructor
  · rw [hts, ofTokens_claimedTokens]
    simp [claimedTokens, Check.checkStructure, Check.Structure.ends, Check.Structure.isLogic,
      Check.Structure.neighbours, Check.Structure.alone, Check.Structure.misspelled,
      Lexeme.connective?, Lexeme.operator?]
  · exact hparens
  · rw [hts, ofTokens_claimedTokens]
    rfl
  · rw [hts, ofTokens_claimedTokens]
    rfl
  · rw [hts, ofTokens_claimedTokens]
    simp [claimedTokens, Check.checkValues, Check.errors_checkPattern, Check.checkValue,
      Lexeme.isUnclosed, Lexeme.content?, Check.Report.warningOn]

/-- A catalog that can hide a condition makes a text valid whose tree names an unknown field. -/
theorem exists_hidden_field (h : catalog.CanHide) :
    ∃ text t f, (Validation.ofText catalog text).valid = true ∧ Tree.parse text = .ok t ∧
      f ∈ t.fields ∧ catalog.contains f = false := by
  obtain ⟨⟨word, hword, hconnective⟩, ⟨field, hfield, hname⟩, o, hop⟩ := h
  obtain ⟨hidden, hhidden, hnew⟩ := exists_new_field catalog.names
  obtain ⟨k, hrole⟩ := reserved_of_isConnectiveWord hconnective
  have hbare := isBareWord_of_isConnectiveWord hconnective
  have hunknown : catalog.contains hidden = false := by
    rw [Bool.eq_false_iff, Ne, Catalog.contains_iff]
    exact hnew
  have hlex := significant_joinedText (o := o) hname hhidden hbare hrole
  obtain ⟨us, hd, hleaves⟩ := derives_joined field hidden word k o maxNesting
  rw [← hlex] at hd
  have hparse := Tree.parse_eq_ok_iff.2 ⟨us, hd, rfl⟩
  obtain ⟨starts, hts⟩ := exists_claimedTokens hname hhidden hbare hrole
    (Catalog.contains_iff.2 hfield) (Catalog.contains_iff.2 hword) hop hunknown
  have hclean := isClean_of_claimedTokens hts (Check.errors_checkParentheses hd)
  refine ⟨joinedText field hidden word k o, _, hidden,
    Validation.valid_ofText_iff.2 ⟨hclean, _, hparse⟩, hparse, ?_, hunknown⟩
  rw [Tree.fields, Tree.leaves_ofChain, hleaves, List.mem_eraseDups]
  simp

/-! ### Known fields -/

/-- A valid text has a tree, and unless the catalog claims one of its connectives for a field, every
field of the tree is in the catalog. A claimed connective hides the condition after it: exactly if
a catalog claims one, and also has a field to name and an operator to use beside it, there is a
valid text with an unknown field. -/
theorem fields_of_valid (catalog : Catalog) :
    (∀ text, (Validation.ofText catalog text).valid = true → ∃ t, Tree.parse text = .ok t ∧
      (catalog.Hides text ∨ ∀ f ∈ t.fields, catalog.contains f = true)) ∧
    ((∀ text, (Validation.ofText catalog text).valid = true → ∃ t, Tree.parse text = .ok t ∧
      ∀ f ∈ t.fields, catalog.contains f = true) ↔ ¬ catalog.CanHide) := by
  refine ⟨fun text h ↦ ?_, ?_, fun hsafe text h ↦ ?_⟩
  · obtain ⟨t, ht, -, -, hfields⟩ := exists_tree_of_valid h
    exact ⟨t, ht, hfields⟩
  · intro hall hhides
    obtain ⟨text, t, f, hvalid, ht, hf, hunknown⟩ := exists_hidden_field hhides
    obtain ⟨t', ht', hfields⟩ := hall text hvalid
    obtain rfl := Except.ok.inj (ht.symm.trans ht')
    simp [hfields f hf] at hunknown
  · obtain ⟨t, ht, ⟨f, hf, hknown⟩, hop, hfields⟩ := exists_tree_of_valid h
    refine ⟨t, ht, hfields.resolve_left ?_⟩
    rintro ⟨u, hu, hkind, hword⟩
    rw [Tree.fields, List.mem_eraseDups] at hf
    obtain ⟨c, hc, rfl⟩ := List.mem_map.1 hf
    have hname := (Tree.leaves_of_parse_eq_ok ht c hc).1
    have hclaimed := contains_text_of_kind_field hu hkind
    exact hsafe ⟨⟨u.text, Catalog.contains_iff.1 hclaimed, hword⟩,
      ⟨c.field, Catalog.contains_iff.1 hknown, hname⟩, hop⟩

/-- The field of the second condition is unknown, and nobody looks at it. -/
theorem valid_of_hidden_condition :
    let catalog := Catalog.ofNames ["channel_name", "AND"]
    let text := "channel_name equals \"x\" AND foo equals \"y\""
    (Validation.ofText catalog text).valid = true ∧
      Tree.parse text = .ok (.group .and [.condition ⟨"channel_name", ⟨.equals, false, false⟩, "x"⟩,
        .condition ⟨"foo", ⟨.equals, false, false⟩, "y"⟩]) ∧
      catalog.contains "foo" = false := by
  decide +kernel

end FilterLang
