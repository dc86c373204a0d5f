import FilterLang.Proofs.Balance
import FilterLang.Proofs.Findings
import FilterLang.Proofs.Reading
import FilterLang.Proofs.Shapes
import FilterLang.Validation

/-!
# Validation and the grammar

Validation and reading go different ways about a text: validation cuts it beside a catalog and looks
at neighbours, parentheses and shapes, and reading cuts it without one and follows the grammar. They
agree nevertheless. A text is valid exactly if it has a tree whose fields are all in the catalog, as
long as the catalog does not claim a reserved word for a field.

That a valid text has a tree is the last check of validation itself. Conversely, a catalog without
reserved words only makes fields of words that could name one, so the derivation of a tree is also
one for the lexemes beside the catalog (`isExpression_of_parse`), and on a derivation no check finds
anything wrong, except for fields that are not in the catalog.
-/

namespace FilterLang

open Grammar

/-! ### Lexemes beside a catalog -/

/-- Whether a catalog leaves the reserved words alone. -/
def Catalog.IsUnreserved (catalog : Catalog) : Prop := ∀ name ∈ catalog.names, ¬ IsReserved name

instance (catalog : Catalog) : Decidable catalog.IsUnreserved :=
  inferInstanceAs (Decidable (∀ name ∈ catalog.names, ¬ IsReserved name))

variable {catalog : Catalog} {text : String} {t : Tree}

/-- Beside a catalog without reserved words, words keep the roles that the language gives them. -/
theorem ofWord_of_isUnreserved (hcat : catalog.IsUnreserved) {w : String} (hw : IsBareWord w) :
    Role.ofWord catalog w = Role.reserved w ∨
      Role.ofWord catalog w = .field ∧ Role.reserved w = .unknown := by
  unfold Role.ofWord
  cases hc : catalog.contains w with
  | false => exact .inl rfl
  | true =>
    exact .inr ⟨rfl, (reserved_eq_unknown_iff hw).2 (hcat w (Catalog.contains_iff.1 hc))⟩

/-- So every lexeme of a text can stand beside the catalog where it stands without one. -/
theorem replaces_recast (hcat : catalog.IsUnreserved) {l : Lexeme} {cs : List Char}
    (hl : l ∈ Lexeme.significant ∅ cs) : Replaces (l.recast catalog) l := by
  cases l with
  | word w r =>
    obtain ⟨hw, rfl⟩ := Lexeme.of_word_mem_cut (Lexeme.mem_cut_of_mem_significant hl)
    rw [Role.ofWord_empty, Lexeme.recast]
    rcases ofWord_of_isUnreserved hcat hw with h | ⟨h, h'⟩
    · rw [h]
      constructor <;> simp
    · rw [h, h']
      constructor <;> simp [Lexeme.modifier?, Lexeme.name?, Lexeme.operator?, Lexeme.content?,
        Lexeme.connective?]
  | _ => constructor <;> simp [Lexeme.recast]

/-- A tree that is read without a catalog is derived from the lexemes beside it. -/
theorem isExpression_of_parse (hcat : catalog.IsUnreserved) (h : Tree.parse text = .ok t) :
    IsExpression maxNesting (Lexeme.significant catalog text.toList) t := by
  obtain ⟨ts, hd, rfl⟩ := Tree.parse_eq_ok_iff.1 h
  rw [Lexeme.significant_eq_map_recast ∅ catalog]
  exact ⟨ts, hd.map fun l hl ↦ replaces_recast hcat hl, rfl⟩

/-! ### Structure -/

namespace Check

variable {n : Nat} {p : Phrase} {toks : List Token} {us : List Tree} {shapes : List Shape}

theorem errors_neighbours {t u : Token} (h : ¬ (Opens t.lexeme ∧ Closes u.lexeme)) :
    (Structure.neighbours t u).errors = [] := by
  have hlogic (v : Token) : Structure.isLogic v = true ↔ v.lexeme.connective?.isSome := .rfl
  simp only [Opens, Closes] at h
  simp only [Structure.neighbours, Report.errors_append, Report.errors_on, Bool.and_eq_true,
    beq_iff_eq, hlogic]
  rw [if_neg (by tauto), if_neg (by tauto), if_neg (by tauto), if_neg (by tauto)]
  rfl

theorem errors_zipWith_neighbours
    (h : (toks.map Token.lexeme).IsChain fun l m ↦ ¬ (Opens l ∧ Closes m)) :
    (List.zipWith Structure.neighbours toks toks.tail).flatMap Report.errors = [] := by
  induction toks with
  | nil => rfl
  | cons t toks ih =>
    cases toks with
    | nil => rfl
    | cons u toks =>
      rw [List.map_cons, List.map_cons, List.isChain_cons_cons] at h
      have := ih h.2
      simp only [List.tail_cons] at this
      rw [List.tail_cons, List.zipWith_cons_cons, List.flatMap_cons, errors_neighbours h.1, this]
      rfl

/-- An expression does not begin or end with a connective. -/
theorem errors_ends (h : Derives n p (toks.map Token.lexeme) us) :
    (Structure.ends toks).errors = [] := by
  obtain ⟨l, ls, hls, -⟩ := h.head
  obtain ⟨first, toks, rfl, -, -⟩ := List.map_eq_cons_iff.1 hls
  have hlast : (first :: toks).getLast? = some ((first :: toks).getLast (List.cons_ne_nil _ _)) :=
    List.getLast?_eq_some_getLast _
  generalize (first :: toks).getLast (List.cons_ne_nil _ _) = last at hlast
  have hfirst : Structure.isLogic first = false := by
    have := h.head_not_closes first.lexeme rfl
    simpa [Closes, Structure.isLogic] using fun hc ↦ this (.inr hc)
  have hlogic : Structure.isLogic last = false := by
    have := h.last_not_opens last.lexeme (by rw [List.getLast?_map, hlast]; rfl)
    simpa [Opens, Structure.isLogic] using fun ho ↦ this (.inr ho)
  rw [Structure.ends, hlast]
  simp [hfirst, hlogic]

/-- An expression has no unclosed value and no stray character. -/
theorem errors_alone (h : Derives n p (toks.map Token.lexeme) us) {t : Token} (ht : t ∈ toks) :
    (Structure.alone t).errors = [] := by
  obtain ⟨l, start⟩ := t
  have hl := h.of_mem l (List.mem_map_of_mem ht)
  cases l with
  | unclosed | stray =>
    simp [IsPart, Lexeme.modifier?, Lexeme.name?, Lexeme.operator?, Lexeme.content?,
      Lexeme.connective?] at hl
  | _ => rfl

theorem errors_checkValue (h : Derives n p (toks.map Token.lexeme) us) {t : Token} (ht : t ∈ toks) :
    (checkValue t).errors = [] := by
  rw [checkValue, h.isUnclosed_eq_false (List.mem_map_of_mem ht)]
  split
  · contradiction
  · split <;> rfl

/-- What is wrong with a regular expression only deserves a warning. -/
theorem errors_checkPattern (s : Shape) : (checkPattern s).errors = [] := by
  unfold checkPattern
  split <;> rfl

/-! ### Shapes -/

variable {s : Shape} {c : Condition}

theorem errors_misspelled (h : s.Shows c) : (Structure.misspelled s).errors = [] := by
  obtain ⟨-, ⟨t, op, hs, hop, -⟩, -⟩ := h
  simp [Structure.misspelled, hs, hop]

theorem errors_checkOperator (h : s.Shows c) : (checkOperator s).errors = [] := by
  obtain ⟨hname, ⟨t, op, hs, hop, -⟩, v, hv, hvalue⟩ := h
  have hfield : s.field.lexeme.operator? = none := operator?_eq_none_of_name? hname
  have hword : v.lexeme.isWord = false := by
    obtain ⟨q, hq⟩ := Lexeme.content?_eq_some_iff.1 hvalue
    rw [hq]
    rfl
  simp [checkOperator, hfield, hs, hop, checkOperand, hv, hword]

/-- The field of a shape is accepted exactly if it is in the catalog that the text was cut beside.
-/
theorem errors_checkField_iff {cs : List Char} (h : s.Shows c)
    (hmem : s.field.lexeme ∈ Lexeme.significant catalog cs) :
    (checkField catalog s).errors = [] ↔ catalog.contains c.field = true := by
  have hname := h.1
  unfold checkField
  generalize s.field.lexeme = l at hname hmem
  obtain ⟨r, rfl, hr⟩ := Lexeme.name?_eq_some_iff.1 hname
  obtain ⟨-, hrole⟩ := Lexeme.of_word_mem_cut (Lexeme.mem_cut_of_mem_significant hmem)
  rcases hr with rfl | rfl
  · refine iff_of_true rfl ?_
    by_contra hc
    rw [Role.ofWord, if_neg hc] at hrole
    exact Role.reserved_ne_field _ hrole.symm
  · refine iff_of_false (List.cons_ne_nil _ _) fun hc ↦ ?_
    rw [Role.ofWord, if_pos hc] at hrole
    cases hrole

/-- A check of every shape is clean exactly if what it asks of each condition holds. -/
theorem forall_shapes_iff {cs : List Condition} {P : Shape → Prop} {Q : Condition → Prop}
    (h : List.Forall₂ Shape.Shows shapes cs)
    (hPQ : ∀ s ∈ shapes, ∀ c, s.Shows c → (P s ↔ Q c)) : (∀ s ∈ shapes, P s) ↔ ∀ c ∈ cs, Q c := by
  induction h with
  | nil => simp
  | cons h _ ih =>
    rw [List.forall_mem_cons, List.forall_mem_cons, hPQ _ List.mem_cons_self _ h,
      ih fun s hs ↦ hPQ s (List.mem_cons_of_mem _ hs)]

/-! ### Whole expressions -/

theorem errors_checkStructure (h : Derives n p (toks.map Token.lexeme) us) :
    (checkStructure toks (Shape.ofTokens toks)).errors = [] := by
  obtain ⟨hshows, -⟩ := Shape.shows_ofTokens h
  have hmisspelled : ∀ s ∈ Shape.ofTokens toks, (Structure.misspelled s).errors = [] :=
    (forall_shapes_iff hshows fun s _ c hc ↦ iff_of_true (errors_misspelled hc) trivial).2
      fun _ _ ↦ trivial
  unfold checkStructure
  split
  · exact errors_ends h
  · simp only [Report.errors_append, Report.errors_join, List.flatMap_map, List.append_eq_nil_iff,
      List.flatMap_eq_nil_iff]
    exact ⟨⟨⟨errors_ends h, List.flatMap_eq_nil_iff.1 (errors_zipWith_neighbours h.isChain)⟩,
      fun t ht ↦ errors_alone h ht⟩, hmisspelled⟩

theorem errors_checkOperators (h : Derives n p (toks.map Token.lexeme) us) :
    (checkOperators (Shape.ofTokens toks)).errors = [] := by
  obtain ⟨hshows, -⟩ := Shape.shows_ofTokens h
  rw [checkOperators, Report.errors_join, List.flatMap_map, List.flatMap_eq_nil_iff]
  exact (forall_shapes_iff hshows fun s _ c hc ↦ iff_of_true (errors_checkOperator hc) trivial).2
    fun _ _ ↦ trivial

theorem errors_checkValues (h : Derives n p (toks.map Token.lexeme) us) (shapes : List Shape) :
    (checkValues toks shapes).errors = [] := by
  simp only [checkValues, Report.errors_append, Report.errors_join, List.flatMap_map,
    List.append_eq_nil_iff, List.flatMap_eq_nil_iff]
  exact ⟨fun t ht ↦ errors_checkValue h ht, fun s _ ↦ errors_checkPattern s⟩

/-- The fields of an expression are accepted exactly if they all are in the catalog that the text
was cut beside. -/
theorem errors_checkFields_iff {cs : List Char} (h : Derives n p (toks.map Token.lexeme) us)
    (hcut : toks.map Token.lexeme = Lexeme.significant catalog cs) :
    (checkFields (Shape.ofTokens toks) catalog).errors = [] ↔
      ∀ c ∈ Tree.leavesAll us, catalog.contains c.field = true := by
  obtain ⟨hshows, hmem⟩ := Shape.shows_ofTokens h
  rw [checkFields, Report.errors_join, List.flatMap_map, List.flatMap_eq_nil_iff]
  refine forall_shapes_iff hshows fun s hs c hc ↦ ?_
  have hlex : s.field.lexeme ∈ Lexeme.significant catalog cs :=
    hcut ▸ List.mem_map_of_mem (hmem s hs)
  exact errors_checkField_iff hc hlex

end Check

/-! ### Agreement -/

namespace Validation

/-- Whether the checks before the reading of the tree found nothing wrong. -/
structure IsClean (catalog : Catalog) (text : String) : Prop where
  structural : (Check.checkStructure (Token.significant (tokenize catalog text))
    (Check.Shape.ofTokens (Token.significant (tokenize catalog text)))).errors = []
  parentheses : (Check.checkParentheses text).errors = []
  fields : (Check.checkFields (Check.Shape.ofTokens (Token.significant (tokenize catalog text)))
    catalog).errors = []
  operators : (Check.checkOperators
    (Check.Shape.ofTokens (Token.significant (tokenize catalog text)))).errors = []
  values : (Check.checkValues (Token.significant (tokenize catalog text))
    (Check.Shape.ofTokens (Token.significant (tokenize catalog text)))).errors = []

theorem valid_treeReport_iff {tokens : List Token} :
    (treeReport tokens text).valid = true ↔ ∃ t, Tree.parse text = .ok t := by
  unfold treeReport
  cases Tree.parse text with
  | ok t => simp [Check.Report.empty]
  | error e =>
    refine iff_of_false ?_ (by simp)
    dsimp only
    split <;> exact Bool.false_ne_true

/-- Nothing was found before the reading of the tree exactly if all reports are valid. -/
theorem all_valid_iff_isClean :
    [Check.checkStructure (Token.significant (tokenize catalog text))
        (Check.Shape.ofTokens (Token.significant (tokenize catalog text))) ++
        Check.checkParentheses text,
      Check.checkFields (Check.Shape.ofTokens (Token.significant (tokenize catalog text))) catalog,
      Check.checkOperators (Check.Shape.ofTokens (Token.significant (tokenize catalog text))),
      Check.checkValues (Token.significant (tokenize catalog text))
        (Check.Shape.ofTokens (Token.significant (tokenize catalog text)))].all
      Check.Report.valid = true ↔ IsClean catalog text := by
  simp only [List.all_cons, List.all_nil, Bool.and_true, Bool.and_eq_true,
    Check.Report.valid_append, Check.valid_checkStructure_iff,
    (Check.records_checkParentheses text).valid_iff, (Check.records_checkFields _ _).valid_iff,
    (Check.records_checkOperators _).valid_iff, (Check.records_checkValues _ _).valid_iff]
  constructor
  · rintro ⟨⟨hs, hp⟩, hf, ho, hv⟩
    exact ⟨hs, hp, hf, ho, hv⟩
  · rintro ⟨hs, hp, hf, ho, hv⟩
    exact ⟨⟨hs, hp⟩, hf, ho, hv⟩

/-- If nothing was found before, what reading the tree finds is added to the structure. -/
theorem structural_of_isClean (h : IsClean catalog text) : (ofText catalog text).structural =
    Check.checkStructure (Token.significant (tokenize catalog text))
      (Check.Shape.ofTokens (Token.significant (tokenize catalog text))) ++
      Check.checkParentheses text ++ treeReport (tokenize catalog text) text := by
  rw [ofText, all_valid_iff_isClean.2 h]
  rfl

theorem valid_ofText_iff_parts : (ofText catalog text).valid = true ↔
    (ofText catalog text).structural.valid = true ∧ (ofText catalog text).fields.valid = true ∧
      (ofText catalog text).operators.valid = true ∧ (ofText catalog text).values.valid = true := by
  have hvalid : (ofText catalog text).valid = (ofText catalog text).reports.all Check.Report.valid :=
    rfl
  simp [hvalid, reports]

/-- A text is valid exactly if no check finds anything wrong and it has a tree. -/
theorem valid_ofText_iff :
    (ofText catalog text).valid = true ↔ IsClean catalog text ∧ ∃ t, Tree.parse text = .ok t := by
  have hstructural (h : IsClean catalog text) :
      (ofText catalog text).structural.valid = true ↔ ∃ t, Tree.parse text = .ok t := by
    have hbefore := all_valid_iff_isClean.2 h
    rw [List.all_cons, Bool.and_eq_true] at hbefore
    rw [structural_of_isClean h, Check.Report.valid_append, Bool.and_eq_true,
      valid_treeReport_iff]
    exact and_iff_right hbefore.1
  rw [valid_ofText_iff_parts]
  constructor
  · rintro ⟨hs, hf, ho, hv⟩
    have hclean : IsClean catalog text := by
      refine all_valid_iff_isClean.1 ?_
      have hbefore : (_ && _) = true := hs
      simp only [List.all_cons, List.all_nil, Bool.and_true, Bool.and_eq_true]
      exact ⟨(Bool.and_eq_true_iff.1 hbefore).1, hf, ho, hv⟩
    exact ⟨hclean, (hstructural hclean).1 hs⟩
  · rintro ⟨hclean, ht⟩
    have hbefore := all_valid_iff_isClean.2 hclean
    simp only [List.all_cons, List.all_nil, Bool.and_true, Bool.and_eq_true] at hbefore
    exact ⟨(hstructural hclean).2 ht, hbefore.2⟩

/-- On a text with a tree no check finds anything wrong, except for fields that are not in the
catalog. -/
theorem isClean_iff (hcat : catalog.IsUnreserved) (h : Tree.parse text = .ok t) :
    IsClean catalog text ↔ ∀ c ∈ t.leaves, catalog.contains c.field = true := by
  obtain ⟨ts, hd, rfl⟩ := isExpression_of_parse hcat h
  have hparens := Check.errors_checkParentheses hd
  have hlex := Token.map_lexeme_significant catalog text
  rw [← hlex] at hd
  rw [Tree.leaves_ofChain, ← Check.errors_checkFields_iff hd hlex]
  exact ⟨fun h ↦ h.fields, fun h ↦ ⟨Check.errors_checkStructure hd, hparens, h,
    Check.errors_checkOperators hd, Check.errors_checkValues hd _⟩⟩

theorem forall_fields_iff {P : String → Prop} :
    (∀ f ∈ t.fields, P f) ↔ ∀ c ∈ t.leaves, P c.field := by
  simp [Tree.fields]

/-- Beside a catalog that leaves the reserved words alone, a text is valid exactly if it can be read
as a tree and every field that the tree names is in the catalog. -/
theorem valid_ofText_iff_parse (catalog : Catalog) (text : String)
    (hcat : ∀ name ∈ catalog.names, ¬ IsReserved name) :
    (ofText catalog text).valid = true ↔
      ∃ t, Tree.parse text = .ok t ∧ ∀ f ∈ t.fields, catalog.contains f = true := by
  rw [valid_ofText_iff]
  constructor
  · rintro ⟨hclean, t, ht⟩
    exact ⟨t, ht, forall_fields_iff.2 ((isClean_iff hcat ht).1 hclean)⟩
  · rintro ⟨t, ht, hfields⟩
    exact ⟨(isClean_iff hcat ht).2 (forall_fields_iff.1 hfields), t, ht⟩

theorem parse_of_valid_builtin : (∀ name ∈ Catalog.builtin.names, ¬ IsReserved name) ∧
    ∃ t, Tree.parse "channel_name contains 'news'" = .ok t ∧
      ∀ f ∈ t.fields, Catalog.builtin.contains f = true := by
  have hcat : ∀ name ∈ Catalog.builtin.names, ¬ IsReserved name := by decide
  exact ⟨hcat, (valid_ofText_iff_parse _ _ hcat).1 (by decide +kernel)⟩

end Validation

end FilterLang
