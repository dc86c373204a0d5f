import FilterLang.Proofs.Expectations
import FilterLang.Proofs.Priority
import FilterLang.Proofs.Replacing

/-!
# Taking a suggestion

A mark may offer a text to put in its place. `Remedies` says what an author gets by taking it: the
word that was marked gives way to one token, which is what was missed there, nothing else is cut in
another way, the conditions are picked out in the same places, and a new validation has nothing of
the kind to say about the new token. `exists_remedies` proves this of every suggestion, as long as
the names of the catalog can stand as fields.

The proof follows what has been picked out in front of the word (`Check.Phase`). It settles what can
be offered there (`Corrects`), that the token offered is taken for the same part of its condition,
and what can be wrong with a token in that place: neither the checks (`Check.Mark.not_fits`) nor the
reader of trees (`Expression.misfits_whole`) miss there what the new token is.
-/

namespace FilterLang

open Check Check.Phase

/-! ### What can be suggested -/

/-- Every known misspelling is one of an operator. -/
theorem Check.mem_of_knownMisspelling? {word fix : String} (h : knownMisspelling? word = some fix) :
    fix ∈ Operator.keywords := by
  have hfixes : ∀ p ∈ misspellings, p.1 ∈ Operator.keywords := by decide +kernel
  obtain ⟨p, hp, rfl⟩ := Option.map_eq_some_iff.1 h
  exact hfixes p (List.mem_of_find?_eq_some hp)

variable {catalog : Catalog} {text : String} {ts front back : List Token} {p : Phase}
  {t u : Token} {l : Lexeme} {m : Highlight} {s : String}

theorem Operator.keyword_mem (op : Operator) : op.keyword ∈ keywords :=
  List.mem_map_of_mem op.mem_all

theorem Operator.exists_of_mem_keywords (h : s ∈ keywords) : ∃ op : Operator, op.keyword = s := by
  obtain ⟨op, -, rfl⟩ := List.mem_map.1 h
  exact ⟨op, rfl⟩

/-! ### What is expected -/

/-- Whether a token is what is expected of it after what has been picked out. -/
inductive Fits : Phase → Token → Prop
  | field {t : Token} (h : t.lexeme.kind = .field) : Fits start t
  | operator {field t : Token} (h : t.lexeme.operator?.isSome = true) : Fits (named field) t
  | value {field operator t : Token} (h : t.lexeme.content?.isSome = true) :
      Fits (asked field operator) t

/-- Whether a problem is that a token is not the field, the operator or the value which is expected
in its place. -/
def Check.Problem.IsMisfit : Problem → Prop
  | missingField _ => True
  | unknownField _ _ => True
  | unknownOperator _ _ => True
  | unquotedValue _ => True
  | noTree fault => fault.IsMisfit
  | _ => False

/-- What a check says is a misfit does not fit. -/
theorem Check.Mark.not_fits (h : Mark catalog ts m) (hm : m.problem.IsMisfit) : ∃ front t back,
    ts = front ++ t :: back ∧ m.start = t.start ∧ ¬ Fits (start.run front) t := by
  cases h with
  | misspelled hs ht hop | unknownOperator hs _ ht hop =>
    obtain ⟨front, back, hts, hrun, -⟩ := exists_operator hs ht
    refine ⟨front, _, back, hts, rfl, fun hfits ↦ ?_⟩
    rw [hrun] at hfits
    cases hfits with
    | operator h => simp [hop] at h
  | missingField hs hl =>
    obtain ⟨front, back, hts, hrun, -⟩ := exists_field hs
    refine ⟨front, _, back, hts, rfl, fun hfits ↦ ?_⟩
    rw [hrun] at hfits
    cases hfits with
    | field h => simp [hl, Lexeme.kind] at h
  | unknownField hs hkind =>
    obtain ⟨front, back, hts, hrun, -⟩ := exists_field hs
    refine ⟨front, _, back, hts, rfl, fun hfits ↦ ?_⟩
    rw [hrun] at hfits
    cases hfits with
    | field h => exact hkind h
  | unquotedValue hs ht hword =>
    obtain ⟨front, back, operator, hts, -, hrun, -⟩ := exists_value hs ht
    refine ⟨front, _, back, hts, rfl, fun hfits ↦ ?_⟩
    rw [hrun] at hfits
    cases hfits with
    | value h =>
      obtain ⟨w, r, hl⟩ := Lexeme.isWord_iff.1 hword
      simp [hl, Lexeme.content?] at h
  | _ => exact hm.elim

/-- A catalog whose names can stand as fields only claims words which nothing else is known of. -/
theorem Lexeme.recast_cases_of_isFieldName (hnames : ∀ name ∈ catalog.names, IsFieldName name)
    (hl : l.recast ∅ = l) : l.recast catalog = l ∨
      ∃ w, l = .word w .unknown ∧ l.recast catalog = .word w .field := by
  rcases recast_cases catalog hl with hsame | ⟨w, r, rfl, hclaimed, hc⟩
  · exact .inl hsame
  · have hname := hnames w (Catalog.contains_iff.1 hc)
    rw [recast, Role.ofWord_empty, (reserved_eq_unknown_iff hname.1).2 hname.2] at hl
    exact .inr ⟨w, hl.symm, hclaimed⟩

/-- Such a catalog does not change what is picked out. -/
theorem agrees_recast (hnames : ∀ name ∈ catalog.names, IsFieldName name)
    (h : t.IsReservedRole) (p : Phase) : Agrees (Token.recast catalog) p t := by
  rcases Lexeme.recast_cases_of_isFieldName hnames h with hsame | ⟨w, hl, hclaimed⟩
  · exact agrees_of_lexeme_eq hsame p
  · have hclaimed : (t.recast catalog).lexeme = .word w .field := hclaimed
    refine agrees_of_eq ?_ ?_ ?_ ?_ p <;>
      simp only [Token.opensCondition, Token.isPlainWord, Token.isBoundary, hclaimed, hl] <;> rfl

/-- What is missed without a catalog is also missed beside such a catalog. -/
theorem not_fits_of_misfits (hnames : ∀ name ∈ catalog.names, IsFieldName name)
    (ht : t ∈ tokenize ∅ text) (h : Expression.Misfits p t) :
    ¬ Fits (p.map (Token.recast catalog)) (t.recast catalog) := by
  have hrole : t.IsReservedRole := Lexeme.recast_of_mem_cut (lexeme_mem_cut ht)
  have hcases := Lexeme.recast_cases_of_isFieldName hnames hrole
  intro hfits
  cases h with
  | field hname =>
    cases hfits with
    | field h =>
      have hkind : (t.lexeme.recast catalog).kind = .field := h
      rcases hcases with hsame | ⟨w, hl, -⟩
      · rw [hsame] at hkind
        exact Lexeme.kind_ne_field hrole hkind
      · rw [hl] at hname
        cases hname
  | operator hop =>
    cases hfits with
    | operator h =>
      have hsome : (t.lexeme.recast catalog).operator?.isSome = true := h
      rcases hcases with hsame | ⟨w, -, hclaimed⟩
      · rw [hsame, hop] at hsome
        cases hsome
      · rw [hclaimed] at hsome
        cases hsome
  | value hword =>
    cases hfits with
    | value h =>
      have hsome : (t.lexeme.recast catalog).content?.isSome = true := h
      obtain ⟨w, r, hl⟩ := Lexeme.isWord_iff.1 hword
      rw [Lexeme.content?_recast, hl] at hsome
      cases hsome

/-- Reading the tree marks where the reader is stuck. -/
theorem Validation.of_mem_treeReport {tokens : List Token}
    (h : m ∈ (treeReport tokens text).highlights) : ∃ e, Tree.parse text = .error e ∧
      m.problem = .noTree e.fault ∧ m.start = e.offset ∧ m.suggestion = none := by
  unfold treeReport at h
  split at h
  · cases h
  · rename_i e he
    refine ⟨e, he, ?_⟩
    split at h
    · rename_i t ht
      have hstart := List.find?_some ht
      exact List.mem_singleton.1 h ▸ ⟨rfl, by simpa using hstart, rfl⟩
    · exact List.mem_singleton.1 h ▸ ⟨rfl, rfl, rfl⟩

/-- The reader of trees says that a token is a misfit only where one is expected beside the catalog
that it does not fit. -/
theorem not_fits_of_parse_eq_error {e : ParseError}
    (hnames : ∀ name ∈ catalog.names, IsFieldName name) (h : Tree.parse text = .error e)
    (he : e.fault.IsMisfit) : ∃ front t back,
      Token.significant (tokenize catalog text) = front ++ t :: back ∧ e.offset = t.start ∧
        ¬ Fits (start.run front) t := by
  obtain ⟨r, hr, rfl⟩ := Tree.parse_eq_error h
  obtain ⟨front, t, back, hts, ht, hmisfits⟩ := Expression.misfits_whole hr he
  have hmem {x : Token} (hx : x ∈ front ++ t :: back) : x ∈ tokenize ∅ text :=
    List.mem_of_mem_filter (hts ▸ hx)
  have hrun : start.run (front.map (Token.recast catalog)) =
      (start.run front).map (Token.recast catalog) := by
    refine run_map (p := start) fun front' x back' hfront ↦ agrees_recast hnames ?_ _
    exact Lexeme.recast_of_mem_cut (lexeme_mem_cut (hmem (by simp [hfront])))
  refine ⟨front.map (Token.recast catalog), t.recast catalog, back.map (Token.recast catalog),
    ?_, ?_, ?_⟩
  · rw [Token.tokenize_eq_map_recast, Token.significant_map_recast, hts, List.map_append,
      List.map_cons]
  · simp [Expression.Refusal.locate, ht, Token.recast]
  · rw [hrun]
    exact not_fits_of_misfits hnames (hmem (by simp)) hmisfits

/-- Neither the checks nor the reader of trees say that a token is a misfit which fits. -/
theorem not_isMisfit_of_fits (hnames : ∀ name ∈ catalog.names, IsFieldName name)
    (hts : Token.significant (tokenize catalog text) = front ++ u :: back)
    (hu : Fits (start.run front) u) (hm : m ∈ (Validation.ofText catalog text).highlights)
    (hstart : m.start = u.start) : ¬ m.problem.IsMisfit := by
  intro hmisfit
  obtain ⟨front', t, back', hts', hstart', hnot⟩ : ∃ front t back,
      Token.significant (tokenize catalog text) = front ++ t :: back ∧ m.start = t.start ∧
        ¬ Fits (start.run front) t := by
    rcases Validation.mark_or_of_mem_highlights hm with h | ⟨-, h⟩
    · exact h.not_fits hmisfit
    · obtain ⟨e, he, hproblem, hoffset, -⟩ := Validation.of_mem_treeReport h
      rw [hproblem] at hmisfit
      rw [hoffset]
      exact not_fits_of_parse_eq_error hnames he hmisfit
  obtain ⟨rfl, rfl⟩ := Token.split_unique (Token.pairwise_significant catalog text) hts hts'
    (hstart.symm.trans hstart')
  exact hnot hu

/-! ### Suggestions -/

/-- What is offered for a word after what has been picked out: a field of the catalog, an operator,
or the word in quotes. -/
inductive Corrects (catalog : Catalog) : Phase → Token → Problem → Lexeme → Prop
  | field {t : Token} {name : String} (hplain : t.isPlainWord = true)
      (hmodifier : t.lexeme.modifier? = none) (hname : catalog.contains name = true) :
      Corrects catalog start t (.unknownField t.text (some name)) (.word name .field)
  | operator {field t : Token} {op : Operator} (hplain : t.isPlainWord = true)
      (hmodifier : t.lexeme.modifier? = none) :
      Corrects catalog (named field) t (.unknownOperator t.text (some op.keyword))
        (.word op.keyword (.operator op))
  | value {field operator t : Token} (hword : t.lexeme.isWord = true)
      (hboundary : t.isBoundary = false) :
      Corrects catalog (asked field operator) t (.unquotedValue t.text) (.quoted '"' t.text)

theorem Lexeme.text_word (w : String) (r : Role) : (word w r).text = w := String.ofList_toList

theorem Lexeme.text_quoted (v : String) :
    (quoted '"' v).text = "\"" ++ v ++ "\"" := by
  rw [← String.toList_inj]
  simp [chars]

/-- Every suggestion is of one of the three kinds. -/
theorem Check.Mark.exists_corrects (h : Mark catalog ts m) (hs : m.suggestion = some s) :
    ∃ front t back l, ts = front ++ t :: back ∧ m.start = t.start ∧ m.stop = t.stop ∧
      Corrects catalog (start.run front) t m.problem l ∧ l.text = s := by
  cases h with
  | @misspelled shape t fix hshape ht hop hfix =>
    obtain ⟨front, back, hts, hrun, hplain, hmodifier⟩ := exists_operator hshape ht
    obtain ⟨op, rfl⟩ := Operator.exists_of_mem_keywords (mem_of_knownMisspelling? hfix)
    cases hs
    refine ⟨front, t, back, .word op.keyword (.operator op), hts, rfl, rfl, ?_,
      Lexeme.text_word ..⟩
    rw [hrun]
    exact .operator hplain hmodifier
  | @unknownOperator shape t hshape hfield ht hop hfix =>
    obtain ⟨front, back, hts, hrun, hplain, hmodifier⟩ := exists_operator hshape ht
    have hhint : Suggestion.suggest t.text Operator.keywords = some s := hs
    obtain ⟨op, rfl⟩ := Operator.exists_of_mem_keywords (Suggestion.mem_of_suggestBy hhint).1
    refine ⟨front, t, back, .word op.keyword (.operator op), hts, rfl, rfl, ?_,
      Lexeme.text_word ..⟩
    rw [hrun, hhint]
    exact .operator hplain hmodifier
  | @unknownField shape hshape hkind hop =>
    obtain ⟨front, back, hts, hrun, hplain, hmodifier⟩ := exists_field hshape
    have hhint : Suggestion.suggest shape.field.text catalog.names = some s := hs
    have hname := Catalog.contains_iff.2 (Suggestion.mem_of_suggestBy hhint).1
    refine ⟨front, shape.field, back, .word s .field, hts, rfl, rfl, ?_, Lexeme.text_word ..⟩
    rw [hrun, hhint]
    exact .field hplain hmodifier hname
  | @unquotedValue shape t hshape ht hword =>
    obtain ⟨front, back, operator, hts, -, hrun, hboundary⟩ := exists_value hshape ht
    cases hs
    refine ⟨front, t, back, .quoted '"' t.text, hts, rfl, rfl, ?_, Lexeme.text_quoted _⟩
    rw [hrun]
    exact .value hword hboundary
  | _ => cases hs

namespace Corrects

variable {problem : Problem}

theorem isWord (h : Corrects catalog p t problem l) : t.lexeme.isWord = true := by
  cases h with
  | field hplain | operator hplain => exact (Bool.and_eq_true_iff.1 hplain).1
  | value hword => exact hword

theorem isBlank (h : Corrects catalog p t problem l) : l.isBlank = false := by
  cases h <;> rfl

/-- What is offered can stand wherever a word can. -/
theorem fitsAsWord (h : Corrects catalog p t problem l)
    (hnames : ∀ name ∈ catalog.names, IsFieldName name) (ht : t ∈ tokenize catalog text) :
    l.FitsAsWord catalog := by
  cases h with
  | @field t name _ _ hname =>
    have hfits : Lexeme.FitsAsWord catalog (.word name (.ofWord catalog name)) :=
      Lexeme.fitsAsWord_word (hnames name (Catalog.contains_iff.1 hname)).1
    rwa [Role.ofWord, if_pos hname] at hfits
  | @operator field t op =>
    -- The catalog does not have a reserved word, so the word is the operator.
    have hnot : catalog.contains op.keyword ≠ true := fun hname ↦
      (hnames _ (Catalog.contains_iff.1 hname)).2 (.inl op.keyword_mem)
    have hfits : Lexeme.FitsAsWord catalog (.word op.keyword (.ofWord catalog op.keyword)) :=
      Lexeme.fitsAsWord_word (isBareWord_keyword op)
    rwa [Role.ofWord, if_neg hnot, reserved_keyword] at hfits
  | value hword =>
    obtain ⟨w, r, hl⟩ := Lexeme.isWord_iff.1 hword
    have hbare := (Lexeme.of_word_mem_cut (hl ▸ lexeme_mem_cut ht)).1
    rw [text_of_lexeme hl]
    refine Lexeme.fitsAsWord_quoted (.inl rfl) fun hquote ↦ ?_
    have := hbare.2 _ hquote
    simp [isBareChar_of_isQuote (.inl rfl)] at this

/-- What is offered is taken for the same part of the condition. -/
theorem agrees (h : Corrects catalog p t problem l) {f : Token → Token}
    (hf : (f t).lexeme = l) : Agrees f p t := by
  cases h with
  | field hplain hmodifier =>
    exact agrees_of_isPlainWord hplain hmodifier (by rw [Token.isPlainWord, hf]; rfl)
      (by rw [hf]; rfl) (.inl rfl)
  | operator hplain hmodifier =>
    exact agrees_of_isPlainWord hplain hmodifier (by rw [Token.isPlainWord, hf]; rfl)
      (by rw [hf]; rfl) (.inr ⟨_, rfl⟩)
  | value _ hboundary =>
    exact agrees_of_isBoundary hboundary (by rw [Token.isBoundary, hf]; rfl) rfl

/-- What is offered is what is expected. -/
theorem fits (h : Corrects catalog p t problem l) {f : Token → Token} (hu : u.lexeme = l) :
    Fits (p.map f) u := by
  cases h with
  | field => exact .field (by rw [hu]; rfl)
  | operator => exact .operator (by rw [hu]; rfl)
  | value => exact .value (by rw [hu]; rfl)

/-- Where the word gives way to what is offered, every token is taken for what it was. -/
theorem agrees_exchange (h : Corrects catalog (start.run front) t problem l)
    (hpair : ts.Pairwise fun t u ↦ t.start < u.start) (hts : ts = front ++ t :: back)
    {front' back' : List Token} (hts' : ts = front' ++ u :: back') :
    Agrees (Token.exchange t ⟨l, t.start⟩) (start.run front') u := by
  by_cases hstart : u.start = t.start
  · obtain ⟨rfl, rfl⟩ := Token.split_unique hpair hts hts' hstart.symm
    exact h.agrees (by rw [Token.exchange_self])
  · exact agrees_of_lexeme_eq (Token.lexeme_exchange hstart) _

/-- Taking what is offered leaves the shapes where they are. -/
theorem ofTokens_exchange (h : Corrects catalog (start.run front) t problem l)
    (hpair : ts.Pairwise fun t u ↦ t.start < u.start) (hts : ts = front ++ t :: back) :
    Shape.ofTokens (ts.map (Token.exchange t ⟨l, t.start⟩)) =
      (Shape.ofTokens ts).map (Shape.map (Token.exchange t ⟨l, t.start⟩)) :=
  ofTokens_map fun _ _ _ hts' ↦ h.agrees_exchange hpair hts hts'

/-- What is offered is what is expected where the word was. -/
theorem fits_exchange (h : Corrects catalog (start.run front) t problem l)
    (hpair : ts.Pairwise fun t u ↦ t.start < u.start) (hts : ts = front ++ t :: back) :
    Fits (start.run (front.map (Token.exchange t ⟨l, t.start⟩))) ⟨l, t.start⟩ := by
  have hrun : start.run (front.map (Token.exchange t ⟨l, t.start⟩)) =
      (start.run front).map (Token.exchange t ⟨l, t.start⟩) := by
    refine run_map (p := start) fun front' u back' hfront ↦ ?_
    have hts' : ts = front' ++ u :: (back' ++ t :: back) := by simp [hts, hfront]
    exact h.agrees_exchange hpair hts hts'
  rw [hrun]
  exact h.fits rfl

/-- What is offered is not blank, and neither was the word. -/
theorem significant_exchange (h : Corrects catalog p t problem l)
    (ht : t ∈ tokenize catalog text) :
    Token.significant ((tokenize catalog text).map (Token.exchange t ⟨l, t.start⟩)) =
      (Token.significant (tokenize catalog text)).map (Token.exchange t ⟨l, t.start⟩) := by
  rw [Token.significant, List.filter_map, Token.significant]
  congr 1
  refine List.filter_congr fun u hu ↦ ?_
  by_cases hstart : u.start = t.start
  · obtain rfl := Token.eq_of_start_eq hu ht hstart
    obtain ⟨w, r, hl⟩ := Lexeme.isWord_iff.1 h.isWord
    rw [Function.comp_apply, Token.exchange_self, h.isBlank, hl]
    rfl
  · rw [Function.comp_apply, Token.lexeme_exchange hstart]

end Corrects

/-- Whether a lexeme is what a mark says is missed in the place of a word: a field of the catalog,
an operator, or a value with both of its quotes that holds the word. -/
def IsCorrection (catalog : Catalog) (t : Token) (l : Lexeme) : Problem → Prop
  | .unknownField w _ => w = t.text ∧ l.kind = .field ∧ catalog.contains l.text = true
  | .unknownOperator w _ => w = t.text ∧ l.kind = .operator
  | .unquotedValue w => w = t.text ∧ l.content? = some w
  | _ => False

theorem Corrects.isCorrection {problem : Problem} (h : Corrects catalog p t problem l) :
    IsCorrection catalog t l problem := by
  cases h with
  | field _ _ hname => exact ⟨rfl, rfl, by rwa [Lexeme.text_word]⟩
  | operator => exact ⟨rfl, rfl⟩
  | value => exact ⟨rfl, rfl⟩

/-- What an author gets by putting the text that a mark offers in its place: a text in which the
lexeme `l` stands for the token `t`. -/
structure Remedies (catalog : Catalog) (text : String) (m : Highlight) (s : String) (t : Token)
    (l : Lexeme) (text' : String) : Prop where
  mem : t ∈ tokenize catalog text
  start : t.start = m.start
  stop : t.stop = m.stop
  word : t.lexeme.isWord = true
  splice : Text.splice? text m.start m.stop s = some text'
  offered : l.text = s
  correction : IsCorrection catalog t l m.problem
  /-- The other tokens stay, and those behind the new one are shifted. -/
  tokens : tokenize catalog text' =
    (tokenize catalog text).map (Token.exchange t ⟨l, t.start⟩)
  /-- The conditions are picked out in the same places. -/
  shapes : Shape.ofTokens (Token.significant (tokenize catalog text')) =
    (Shape.ofTokens (Token.significant (tokenize catalog text))).map
      (Shape.map (Token.exchange t ⟨l, t.start⟩))
  /-- No mark at the new token says that it is not what is expected there. -/
  remedied : ∀ k ∈ (Validation.ofText catalog text').highlights,
    k.start = t.start → ¬ k.problem.IsMisfit

/-- Beside a catalog whose names can stand as fields, every suggestion is sound. -/
theorem exists_remedies (catalog : Catalog) (text : String) (m : Highlight) (s : String)
    (hnames : ∀ name ∈ catalog.names, IsFieldName name)
    (hm : m ∈ (Validation.ofText catalog text).highlights) (hs : m.suggestion = some s) :
    ∃ t l text', Remedies catalog text m s t l text' := by
  -- Nothing is offered where reading the tree failed, so the mark is one of a check.
  obtain ⟨front, t, back, l, hts, hstart, hstop, hcorrects, htext⟩ : ∃ front t back l,
      Token.significant (tokenize catalog text) = front ++ t :: back ∧ m.start = t.start ∧
        m.stop = t.stop ∧ Corrects catalog (start.run front) t m.problem l ∧ l.text = s := by
    rcases Validation.mark_or_of_mem_highlights hm with h | ⟨-, h⟩
    · exact h.exists_corrects hs
    · obtain ⟨-, -, -, -, hnone⟩ := Validation.of_mem_treeReport h
      rw [hnone] at hs
      cases hs
  have hmem : t ∈ Token.significant (tokenize catalog text) := by
    rw [hts]
    simp
  have ht : t ∈ tokenize catalog text := List.mem_of_mem_filter hmem
  obtain ⟨text', hsplice, htokens⟩ :=
    tokenize_splice ht hcorrects.isWord (hcorrects.fitsAsWord hnames ht)
  have hpair := Token.pairwise_significant catalog text
  have hsignificant : Token.significant (tokenize catalog text') =
      (Token.significant (tokenize catalog text)).map (Token.exchange t ⟨l, t.start⟩) := by
    rw [htokens, hcorrects.significant_exchange ht]
  have hremedied : ∀ k ∈ (Validation.ofText catalog text').highlights,
      k.start = t.start → ¬ k.problem.IsMisfit := by
    have hts' := hsignificant
    rw [hts, List.map_append, List.map_cons, Token.exchange_self] at hts'
    exact fun k hk ↦ not_isMisfit_of_fits (u := ⟨l, t.start⟩) hnames hts'
      (hcorrects.fits_exchange hpair hts) hk
  exact ⟨t, l, text', {
    mem := ht
    start := hstart.symm
    stop := hstop.symm
    word := hcorrects.isWord
    splice := by rw [hstart, hstop, ← htext, hsplice]
    offered := htext
    correction := hcorrects.isCorrection
    tokens := htokens
    shapes := by rw [hsignificant, hcorrects.ofTokens_exchange hpair hts]
    remedied := hremedied }⟩

/-- A field that lacks its last letter gets it back. -/
theorem exists_remedies_of_lacking :
    let catalog := Catalog.ofNames ["channel_name", "group_title"]
    let text := "not channel_nam contains sport"
    let m : Highlight :=
      ⟨4, 15, .error, .unknownField "channel_nam" (some "channel_name"), some "channel_name"⟩
    (∀ name ∈ catalog.names, IsFieldName name) ∧
      m ∈ (Validation.ofText catalog text).highlights ∧
      ∃ t l text', Remedies catalog text m "channel_name" t l text' := by
  intro catalog text m
  have hnames : ∀ name ∈ catalog.names, IsFieldName name := by decide
  have hm : m ∈ (Validation.ofText catalog text).highlights :=
    Validation.mem_highlights_iff.2 (by decide +kernel)
  exact ⟨hnames, hm, exists_remedies catalog text m "channel_name" hnames hm rfl⟩

end FilterLang
