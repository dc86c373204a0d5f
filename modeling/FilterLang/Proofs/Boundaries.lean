import FilterLang.Proofs.Blame
import FilterLang.Proofs.Marks
import FilterLang.Proofs.Tiling

/-!
# Catalogs and the boundaries of tokens

A catalog has a say in what a word is and none in where it begins and ends. So two catalogs cut a
text into the same pieces, and a piece is of two kinds beside them only if it is a word that one of
them has and the other has not (`forall₂_matches`).

This is what lets a validation point at a token when it reads the tree last. The tree is read
without a catalog, so the byte that its error blames is looked up among tokens that were not cut for
the reader. The reader blames one of its own tokens or the end of the text, and the tokens beside
the catalog start at the same bytes (`exists_treeReport`). The mark is shown as it is made, since
nothing else was wrong.
-/

namespace FilterLang

open Check

variable {catalog a b : Catalog} {text : String} {t u : Token} {e : ParseError}

/-! ### Two catalogs -/

/-- What a catalog makes of a lexeme that has the role which the language gives it. -/
theorem Lexeme.kind_recast {l : Lexeme} (hl : l.recast ∅ = l) :
    (l.recast catalog).kind =
      if l.isWord = true ∧ catalog.contains l.text = true then .field else l.kind := by
  cases l with
  | word w r =>
    have htext : (word w r).text = w := String.ofList_toList
    rw [recast, Role.ofWord_empty, word.injEq] at hl
    rw [htext, ← hl.2, recast, Role.ofWord]
    by_cases hc : catalog.contains w = true
    · rw [if_pos hc, if_pos ⟨rfl, hc⟩]
      rfl
    · rw [if_neg hc, if_neg fun h ↦ hc h.2]
  | _ => rfl

theorem Lexeme.kind_ne_field {l : Lexeme} (hl : l.recast ∅ = l) : l.kind ≠ .field := by
  intro h
  obtain ⟨w, rfl⟩ := kind_eq_field_iff.1 h
  rw [recast, Role.ofWord_empty, word.injEq] at hl
  exact Role.reserved_ne_field w hl.2

namespace Token

/-- Whether a token is a word that one of two catalogs has and the other has not. -/
def IsContested (a b : Catalog) (t : Token) : Prop :=
  t.lexeme.isWord = true ∧ a.contains t.text ≠ b.contains t.text

/-- What the tokens in one place of a text have in common beside two catalogs. -/
structure Matches (a b : Catalog) (t u : Token) : Prop where
  text : t.text = u.text
  start : t.start = u.start
  stop : t.stop = u.stop
  kind : ¬ IsContested a b t → t.lexeme.kind = u.lexeme.kind
  /-- A contested word is a field on the side that has it and no field on the other. -/
  contested : IsContested a b t → (t.lexeme.kind = .field ↔ a.contains t.text = true) ∧
    (u.lexeme.kind = .field ↔ b.contains t.text = true)

theorem text_recast (t : Token) : (t.recast catalog).text = t.text := by
  rw [Token.text, Token.text, Lexeme.text, Lexeme.text, Token.recast, Lexeme.chars_recast]

theorem stop_recast (t : Token) : (t.recast catalog).stop = t.stop := by
  rw [stop, stop, Token.recast, Lexeme.chars_recast]

theorem isWord_recast (t : Token) : (t.recast catalog).lexeme.isWord = t.lexeme.isWord := by
  obtain ⟨l, start⟩ := t
  cases l <;> rfl

theorem matches_recast (a b : Catalog) (h : t.IsReservedRole) :
    Matches a b (t.recast a) (t.recast b) := by
  have hkind (catalog : Catalog) : (t.recast catalog).lexeme.kind =
      if t.lexeme.isWord = true ∧ catalog.contains t.text = true then .field else t.lexeme.kind :=
    Lexeme.kind_recast h
  have hfield : t.lexeme.kind ≠ .field := Lexeme.kind_ne_field h
  constructor
  case text => rw [text_recast, text_recast]
  case start => rfl
  case stop => rw [stop_recast, stop_recast]
  case kind =>
    intro hsame
    rw [IsContested, isWord_recast, text_recast, not_and, ne_eq, not_not] at hsame
    rw [hkind, hkind]
    by_cases hword : t.lexeme.isWord = true
    · rw [hsame hword]
    · rw [if_neg fun h ↦ hword h.1, if_neg fun h ↦ hword h.1]
  case contested =>
    rintro ⟨hword, -⟩
    rw [isWord_recast] at hword
    rw [hkind, hkind, text_recast]
    simp [hword, hfield]

/-- Two catalogs cut a text into the same pieces. -/
theorem forall₂_matches (text : String) (a b : Catalog) :
    List.Forall₂ (Matches a b) (tokenize a text) (tokenize b text) := by
  rw [tokenize_eq_map_recast a, tokenize_eq_map_recast b, List.forall₂_map_left_iff,
    List.forall₂_map_right_iff, List.forall₂_same]
  exact fun t ht ↦ matches_recast a b (Lexeme.recast_of_mem_cut (lexeme_mem_cut ht))

/-- A byte where a token starts beside one catalog is one where a token starts beside another. -/
theorem exists_start (ht : t ∈ tokenize a text) (b : Catalog) :
    ∃ u ∈ tokenize b text, u.start = t.start := by
  rw [tokenize_eq_map_recast] at ht ⊢
  obtain ⟨u, hu, rfl⟩ := List.mem_map.1 ht
  exact ⟨u.recast b, List.mem_map_of_mem hu, rfl⟩

theorem eq_of_start_eq (ht : t ∈ tokenize catalog text) (hu : u ∈ tokenize catalog text)
    (h : t.start = u.start) : t = u := by
  have hpair := (starts_tokenize catalog text).1
  have hnodup : ((tokenize catalog text).map Token.start).Nodup :=
    List.pairwise_map.2 (hpair.imp Nat.ne_of_lt)
  exact List.inj_on_of_nodup_map hnodup ht hu h

theorem pairwise_significant (catalog : Catalog) (text : String) :
    (significant (tokenize catalog text)).Pairwise fun t u ↦ t.start < u.start :=
  (starts_tokenize catalog text).1.filter _

end Token

/-! ### The error of the tree -/

/-- An error of a text that is not blank blames a token or the end of the text. -/
theorem Tree.offset_of_parse_eq_error (hne : Token.significant (tokenize ∅ text) ≠ [])
    (h : Tree.parse text = .error e) :
    (∃ t ∈ tokenize ∅ text, t.start = e.offset) ∨ e.offset = Text.byteSize text := by
  obtain ⟨r, hr, rfl⟩ := parse_eq_error h
  obtain ⟨front, tail, hsplit, hb⟩ := Expression.localised_whole hne hr
  cases tail with
  | nil => exact .inr (by simp [Expression.Refusal.locate, hb.token, hb.fault])
  | cons t tail =>
    have ht : t ∈ Token.significant (tokenize ∅ text) := by simp [hsplit]
    exact .inl ⟨t, List.mem_of_mem_filter ht, by simp [Expression.Refusal.locate, hb.token]⟩

namespace Validation

/-- A text in which nothing is wrong has something in it. -/
theorem significant_ne_nil_of_isClean (h : IsClean catalog text) :
    Token.significant (tokenize catalog text) ≠ [] := by
  intro hnil
  have hstructural := h.structural
  rw [hnil] at hstructural
  cases hstructural

/-- Whether a range is that of one token beside the catalog, or empty at the end of the text. -/
def IsTokenOrEnd (catalog : Catalog) (text : String) (start stop : Nat) : Prop :=
  (∃! t, t ∈ tokenize catalog text ∧ t.start = start ∧ t.stop = stop) ∨
    start = Text.byteSize text ∧ stop = Text.byteSize text

/-- What reading the tree adds is at one token beside the catalog or at the end. -/
theorem exists_treeReport (hclean : IsClean catalog text) (h : Tree.parse text = .error e) :
    ∃ start stop, treeReport (tokenize catalog text) text =
      .errorAt start stop (.noTree e.fault) none ∧ IsTokenOrEnd catalog text start stop := by
  have hne : Token.significant (tokenize ∅ text) ≠ [] := by
    have hne := significant_ne_nil_of_isClean hclean
    rwa [Token.tokenize_eq_map_recast, Token.significant_map_recast, Ne, List.map_eq_nil_iff] at hne
  rw [treeReport, h]
  dsimp only
  split
  · rename_i t ht
    have hmem := List.mem_of_find?_eq_some ht
    refine ⟨t.start, t.stop, rfl, .inl ⟨t, ⟨hmem, rfl, rfl⟩, ?_⟩⟩
    exact fun u hu ↦ Token.eq_of_start_eq hu.1 hmem hu.2.1
  · rename_i hnone
    rcases Tree.offset_of_parse_eq_error hne h with ⟨t, ht, hstart⟩ | hend
    · -- A token of the reader is blamed, so one beside the catalog would have been found.
      obtain ⟨u, hu, hstart'⟩ := Token.exists_start ht catalog
      have := List.find?_eq_none.1 hnone u hu
      simp [hstart', hstart] at this
    · exact ⟨e.offset, e.offset, rfl, .inr ⟨hend, hend⟩⟩

/-- If nothing was wrong before, only reading the tree marks an error. -/
theorem mem_treeReport_of_isClean {r : Report} {m : Highlight} (hclean : IsClean catalog text)
    (hr : r ∈ (ofText catalog text).reports) (hm : m ∈ r.highlights)
    (hseverity : m.severity = .error) :
    m ∈ (treeReport (tokenize catalog text) text).highlights := by
  have hnone {cause : Highlight → Problem} {r : Report} (h : r.Records cause)
      (hnil : r.errors = []) : ∀ m ∈ r.highlights, m.severity ≠ .error :=
    h.valid_iff_forall.1 (h.valid_iff.2 hnil)
  simp only [reports, List.mem_cons, List.not_mem_nil, or_false] at hr
  rcases hr with rfl | rfl | rfl | rfl
  · rw [structural_of_isClean hclean, Report.highlights_append, Report.highlights_append,
      List.mem_append, List.mem_append] at hm
    rcases hm with (hm | hm) | hm
    · have hrecords := records_checkStructure (significant_ne_nil_of_isClean hclean)
        (Shape.ofTokens (Token.significant (tokenize catalog text)))
      exact absurd hseverity (hnone hrecords hclean.structural m hm)
    · exact absurd hseverity (hnone (records_checkParentheses text) hclean.parentheses m hm)
    · exact hm
  · exact absurd hseverity (hnone (records_fields catalog text) hclean.fields m hm)
  · exact absurd hseverity (hnone (records_operators catalog text) hclean.operators m hm)
  · exact absurd hseverity (hnone (records_values catalog text) hclean.values m hm)

end Validation

/-- Any two catalogs cut a text into the same pieces, which differ in kind only where a word is
contested. Therefore, if reading the tree is the only check to fail, what it adds is the mark of one
token beside the catalog of the validation or of the empty range at the end of the text. -/
theorem catalog_keeps_boundaries (text : String) :
    (∀ a b : Catalog, List.Forall₂ (Token.Matches a b) (tokenize a text) (tokenize b text)) ∧
    ∀ (catalog : Catalog) (e : ParseError), Validation.IsClean catalog text →
      Tree.parse text = .error e → ∃ start stop,
        let v := Validation.ofText catalog text
        let ts := Token.significant (tokenize catalog text)
        v.structural = checkStructure ts (Shape.ofTokens ts) ++ checkParentheses text ++
          .errorAt start stop (.noTree e.fault) none ∧
        ⟨start, stop, .error, .noTree e.fault, none⟩ ∈ v.highlights ∧
        Validation.IsTokenOrEnd catalog text start stop := by
  refine ⟨Token.forall₂_matches text, fun catalog e hclean he ↦ ?_⟩
  obtain ⟨start, stop, hreport, hplace⟩ := Validation.exists_treeReport hclean he
  refine ⟨start, stop, ?_, ?_, hplace⟩
  · rw [← hreport]
    exact Validation.structural_of_isClean hclean
  · have hmem : Highlight.mk start stop .error (.noTree e.fault) none ∈
        (Validation.ofText catalog text).structural.highlights := by
      rw [Validation.structural_of_isClean hclean, hreport]
      exact List.mem_append_right _ List.mem_cons_self
    obtain ⟨k, hk, -, hseverity⟩ := Validation.exists_shown_severity List.mem_cons_self hmem
    obtain ⟨r, hr, hkr⟩ := Validation.exists_report_of_mem hk
    have hk' := Validation.mem_treeReport_of_isClean hclean hr hkr hseverity
    rw [hreport] at hk'
    exact List.mem_singleton.1 hk' ▸ hk

/-- The word behind the condition begins no other, which the tree is the first to tell. -/
theorem catalog_keeps_boundaries_of_trailing :
    let catalog := Catalog.ofNames ["channel_name", "group_title"]
    let text := "channel_name contains \"x\" group_title"
    Validation.IsClean catalog text ∧ Tree.parse text = .error ⟨.trailing "group_title", 26⟩ ∧
      ∃ start stop, ⟨start, stop, .error, .noTree (.trailing "group_title"), none⟩ ∈
        (Validation.ofText catalog text).highlights ∧
        Validation.IsTokenOrEnd catalog text start stop := by
  intro catalog text
  have hclean : Validation.IsClean catalog text := by constructor <;> decide +kernel
  have herror : Tree.parse text = .error ⟨.trailing "group_title", 26⟩ := by decide +kernel
  obtain ⟨start, stop, -, hmem, hplace⟩ := (catalog_keeps_boundaries text).2 catalog _ hclean herror
  exact ⟨hclean, herror, start, stop, hmem, hplace⟩

end FilterLang
