import FilterLang.Proofs.Boundaries

/-!
# What a validation says in several places

A validation gives its verdict, the verdicts of its parts, lists of what is wrong, and marks. An
editor may use any of them, so they must say the same, and nothing that a check found may be lost on
the way. `Validation.IsConsistent` lists what can be relied on, for every text and catalog, and
`isConsistent_ofText` assembles it from what the checks record (`Check.Report.Records`), from the
list of their marks (`Check.Mark`) and from where each of them puts its report (`Origin`).

Two things are left open on purpose. That there is nothing to validate is wrong in itself and has no
mark, so verdict and marks are compared where some token stands that is not white space. And the
only mark that may be empty is that of the tree, at the end of the text, where something is missing.
-/

namespace FilterLang

/-! ### Ranges -/

namespace Text

/-- Whether no character of a text goes across a byte. -/
def IsBoundary (cs : List Char) (n : Nat) : Prop :=
  ∃ before after, cs = before ++ after ∧ byteLength before = n

theorem IsBoundary.le {cs : List Char} {n : Nat} (h : IsBoundary cs n) : n ≤ byteLength cs := by
  obtain ⟨before, after, rfl, rfl⟩ := h
  rw [byteLength_append]
  exact Nat.le_add_right ..

/-- Whether two bytes bound a part of a text. -/
structure IsRange (cs : List Char) (start stop : Nat) : Prop where
  le : start ≤ stop
  start : IsBoundary cs start
  stop : IsBoundary cs stop

end Text

variable {catalog : Catalog} {text : String} {t u : Token} {l : Lexeme}

namespace Token

/-- The bytes at which a token starts and stops, and those at which a beginning of it stops, lie
between characters. -/
theorem isBoundary_of_mem (ht : t ∈ tokenize catalog text) {front back : List Char}
    (h : t.lexeme.chars = front ++ back) :
    Text.IsBoundary text.toList (t.start + Text.byteLength front) := by
  obtain ⟨before, after, htext, hstart, -⟩ := exists_cuts_of_mem ht
  refine ⟨before ++ front, back ++ after, ?_, ?_⟩
  · rw [htext, h]
    simp
  · rw [Text.byteLength_append, hstart]

theorem isBoundary_start (ht : t ∈ tokenize catalog text) :
    Text.IsBoundary text.toList t.start :=
  isBoundary_of_mem ht (List.nil_append _).symm

theorem isBoundary_stop (ht : t ∈ tokenize catalog text) : Text.IsBoundary text.toList t.stop :=
  isBoundary_of_mem ht (List.append_nil _).symm

theorem start_lt_stop (ht : t ∈ tokenize catalog text) : t.start < t.stop := by
  have hne := Lexeme.chars_ne_nil_of_mem_cut (lexeme_mem_cut ht)
  exact Nat.lt_add_of_pos_right (Text.byteLength_pos hne)

theorem isRange_of_mem (ht : t ∈ tokenize catalog text) :
    Text.IsRange text.toList t.start t.stop :=
  ⟨Nat.le_of_lt (start_lt_stop ht), isBoundary_start ht, isBoundary_stop ht⟩

end Token

/-! ### Marks -/

namespace Check

variable {m : Highlight}

/-- A mark of a check is at a part of the text that is not empty. -/
theorem Mark.isRange (h : Mark catalog (Token.significant (tokenize catalog text)) m) :
    Text.IsRange text.toList m.start m.stop ∧ m.start < m.stop := by
  have hmem {t : Token} (ht : t ∈ Token.significant (tokenize catalog text)) :
      t ∈ tokenize catalog text := List.mem_of_mem_filter ht
  have htoken {t : Token} (ht : t ∈ Token.significant (tokenize catalog text)) :
      Text.IsRange text.toList t.start t.stop ∧ t.start < t.stop :=
    ⟨Token.isRange_of_mem (hmem ht), Token.start_lt_stop (hmem ht)⟩
  cases h with
  | startsWithLogic ht | endsWithLogic ht | consecutiveLogic ht | nothingOnLeft ht
  | nothingOnRight ht | unexpectedCharacter ht | unmatchedClosing ht | unclosedOpening ht
  | emptyValue ht => exact htoken ht
  | missingField hs | unknownField hs | missingOperator hs => exact htoken (Phase.field_mem hs)
  | misspelled hs ht | unknownOperator hs _ ht | missingValue hs ht =>
    exact htoken (Phase.operator_mem hs ht)
  | unquotedValue hs ht | badPattern hs ht => exact htoken (Phase.value_mem hs ht)
  | @emptyParentheses front back t u hts =>
    have ht : t ∈ tokenize catalog text := hmem (by simp [hts])
    have hu : u ∈ tokenize catalog text := hmem (by simp [hts])
    have hpair := Token.pairwise_significant catalog text
    rw [hts] at hpair
    have htu : t.start < u.start :=
      (List.pairwise_cons.1 (List.pairwise_append.1 hpair).2.1).1 u List.mem_cons_self
    -- The range reaches from the one token to the other.
    have hlt : t.start < u.stop := Nat.lt_trans htu (Token.start_lt_stop hu)
    exact ⟨⟨Nat.le_of_lt hlt, Token.isBoundary_start ht, Token.isBoundary_stop hu⟩, hlt⟩
  | @unmatchedQuote t ht hopen =>
    have hcut := lexeme_mem_cut (hmem ht)
    obtain ⟨q, v, hl⟩ := Lexeme.isUnclosed_iff.1 hopen
    -- A quote takes one byte, so the range ends behind the first character of the token.
    have hquote : t.start + 1 = t.start + Text.byteLength [q] := by
      rw [hl] at hcut
      rcases (Lexeme.of_unclosed_mem_cut hcut).1 with rfl | rfl <;> rfl
    have hstop : Text.IsBoundary text.toList (t.start + 1) := by
      have hchars : t.lexeme.chars = [q] ++ v.toList := by rw [hl]; rfl
      rw [hquote]
      exact Token.isBoundary_of_mem (hmem ht) hchars
    exact ⟨⟨Nat.le_succ _, Token.isBoundary_start (hmem ht), hstop⟩, Nat.lt_succ_self _⟩

/-- The error about a value that is not closed comes with a mark on its quote. -/
theorem exists_unclosed_of_mem_errors {ts : List Token} {p : Problem} {shapes : List Shape}
    (h : p ∈ (checkValues ts shapes).errors) : ∃ t ∈ ts, t.lexeme.isUnclosed = true ∧
      p = .unclosedValue t.start ∧
      ⟨t.start, t.start + 1, .error, .unmatchedQuote, none⟩ ∈
        (checkValues ts shapes).highlights := by
  simp only [checkValues, Report.errors_append, Report.errors_join, List.flatMap_map,
    List.mem_append, List.mem_flatMap, errors_checkPattern, List.not_mem_nil, and_false,
    exists_false, or_false] at h
  obtain ⟨t, ht, hp⟩ := h
  have hopen : t.lexeme.isUnclosed = true := by
    by_contra hopen
    rw [checkValue, if_neg hopen] at hp
    split at hp <;> cases hp
  refine ⟨t, ht, hopen, ?_, ?_⟩
  · rw [checkValue, if_pos hopen] at hp
    exact List.mem_singleton.1 hp
  · simp only [checkValues, Report.highlights_append, Report.highlights_join, List.flatMap_map,
      List.mem_append, List.mem_flatMap]
    exact .inl ⟨t, ht, by rw [checkValue, if_pos hopen]; exact List.mem_cons_self⟩

end Check

/-! ### Validations -/

namespace Validation

open Check

variable {m : Highlight} {r : Report} {v : Validation}

/-- What the verdicts, the errors and the marks of a validation have to do with each other. -/
structure IsConsistent (catalog : Catalog) (text : String) (v : Validation) : Prop where
  parts : ∀ r ∈ v.reports, r.valid = true ↔ r.errors = []
  valid : v.valid = true ↔ ∀ r ∈ v.reports, r.valid = true
  /-- Where anything stands, the text is valid exactly if no error is marked. -/
  marked : (∃ t ∈ tokenize catalog text, t.lexeme.isBlank = false) →
    (v.valid = true ↔ ∀ m ∈ v.highlights, m.severity ≠ .error)
  /-- And then every error about structure, fields and operators is marked in its own words. -/
  errors : (∃ t ∈ tokenize catalog text, t.lexeme.isBlank = false) →
    ∀ r ∈ [v.structural, v.fields, v.operators], ∀ p ∈ r.errors,
      ∃ m ∈ v.highlights, m.severity = .error ∧ m.message = p.message
  /-- An error about values is about one that is not closed, and its opening quote is marked. -/
  values : ∀ p ∈ v.values.errors, ∃ t ∈ tokenize catalog text, t.lexeme.isUnclosed = true ∧
    p = .unclosedValue t.start ∧ ∃ m ∈ v.highlights, m.severity = .error ∧
      m.message = "Unmatched quote" ∧ m.start = t.start ∧ m.stop = t.start + 1
  range : ∀ m ∈ v.highlights,
    Text.IsRange text.toList m.start m.stop ∧ m.stop ≤ Text.byteSize text
  /-- Only the end of the text is marked by an empty range, as a fault of the tree. -/
  nonempty : ∀ m ∈ v.highlights, m.start < m.stop ∨ m.start = Text.byteSize text ∧
    m.stop = Text.byteSize text ∧ m.severity = .error ∧ ∃ f, m.problem = .noTree f
  ordered : v.highlights.Pairwise fun m k ↦ m.start < k.start ∨ m.start = k.start ∧ m.stop ≤ k.stop
  distinct : v.highlights.Pairwise fun m k ↦ ¬ m.Same k
  /-- Each part holds the reports of all checks that belong to it. -/
  recorded : ∀ o : Origin, o.Applies catalog text → (o.report catalog text).Within (o.part v)
  /-- A mark that is shown was made by some check, or by the reading of the tree. -/
  made : ∀ m ∈ v.highlights, ∃ o : Origin, o.Applies catalog text ∧
    m ∈ (o.report catalog text).highlights
  /-- A mark that was made is shown, or one in its place that says the same and is as bad. -/
  kept : ∀ o : Origin, o.Applies catalog text → ∀ m ∈ (o.report catalog text).highlights,
    ∃ k ∈ v.highlights, k.Same m ∧ k.severity = m.severity

theorem significant_ne_nil (h : ∃ t ∈ tokenize catalog text, t.lexeme.isBlank = false) :
    Token.significant (tokenize catalog text) ≠ [] := by
  obtain ⟨t, ht, hblank⟩ := h
  exact List.ne_nil_of_mem (List.mem_filter.2 ⟨ht, by rw [hblank]; rfl⟩)

theorem valid_ofText_iff_forall :
    (ofText catalog text).valid = true ↔ ∀ r ∈ (ofText catalog text).reports, r.valid = true :=
  List.all_eq_true

/-- Where anything stands, each part is valid exactly if it marks no error. -/
theorem valid_iff_forall_highlights (hne : Token.significant (tokenize catalog text) ≠ [])
    (hr : r ∈ (ofText catalog text).reports) :
    r.valid = true ↔ ∀ m ∈ r.highlights, m.severity ≠ .error := by
  simp only [reports, List.mem_cons, List.not_mem_nil, or_false] at hr
  rcases hr with rfl | rfl | rfl | rfl
  · exact (records_structural hne).valid_iff_forall
  · exact (records_fields catalog text).valid_iff_forall
  · exact (records_operators catalog text).valid_iff_forall
  · exact (records_values catalog text).valid_iff_forall

theorem valid_ofText_iff_forall_highlights
    (hne : Token.significant (tokenize catalog text) ≠ []) :
    (ofText catalog text).valid = true ↔
      ∀ m ∈ (ofText catalog text).highlights, m.severity ≠ .error := by
  rw [valid_ofText_iff_forall]
  constructor
  · intro h m hm
    obtain ⟨r, hr, hmr⟩ := exists_report_of_mem hm
    exact (valid_iff_forall_highlights hne hr).1 (h r hr) m hmr
  · intro h r hr
    refine (valid_iff_forall_highlights hne hr).2 fun m hm ↦ ?_
    obtain ⟨k, hk, -, hseverity⟩ := exists_shown_severity hr hm
    exact hseverity ▸ h k hk

/-- Every error of a part that marks what it records is shown. -/
theorem exists_shown_of_mem_errors {p : Problem} (hr : r ∈ (ofText catalog text).reports)
    (hrecords : r.Records Highlight.problem) (hp : p ∈ r.errors) :
    ∃ m ∈ (ofText catalog text).highlights, m.severity = .error ∧ m.message = p.message := by
  obtain ⟨m, hm, hseverity, rfl⟩ := hrecords.exists_mark hp
  obtain ⟨k, hk, hsame, hk'⟩ := exists_shown_severity hr hm
  exact ⟨k, hk, hk'.trans hseverity, hsame.2.2⟩

/-- What reading the tree marks is a part of the text or its end. -/
theorem isRange_of_mem_treeReport (hclean : IsClean catalog text)
    (hm : m ∈ (treeReport (tokenize catalog text) text).highlights) :
    Text.IsRange text.toList m.start m.stop ∧
      (m.start < m.stop ∨ m.start = Text.byteSize text ∧ m.stop = Text.byteSize text ∧
        m.severity = .error ∧ ∃ f, m.problem = .noTree f) := by
  cases hparse : Tree.parse text with
  | ok tree =>
    rw [treeReport, hparse] at hm
    cases hm
  | error e =>
    obtain ⟨start, stop, hreport, hplace⟩ := exists_treeReport hclean hparse
    rw [hreport] at hm
    obtain rfl := List.mem_singleton.1 hm
    rcases hplace with ⟨t, ⟨ht, rfl, rfl⟩, -⟩ | ⟨rfl, rfl⟩
    · exact ⟨Token.isRange_of_mem ht, .inl (Token.start_lt_stop ht)⟩
    · have hend : Text.IsBoundary text.toList (Text.byteSize text) :=
        ⟨text.toList, [], (List.append_nil _).symm, rfl⟩
      exact ⟨⟨Nat.le_refl _, hend, hend⟩, .inr ⟨rfl, rfl, rfl, e.fault, rfl⟩⟩

/-- Every mark that is shown is a part of the text or its end. -/
theorem isRange_of_mem_highlights (hm : m ∈ (ofText catalog text).highlights) :
    Text.IsRange text.toList m.start m.stop ∧
      (m.start < m.stop ∨ m.start = Text.byteSize text ∧ m.stop = Text.byteSize text ∧
        m.severity = .error ∧ ∃ f, m.problem = .noTree f) := by
  rcases mark_or_of_mem_highlights hm with h | ⟨hclean, h⟩
  · exact ⟨h.isRange.1, .inl h.isRange.2⟩
  · exact isRange_of_mem_treeReport hclean h

/-- The verdict, the errors and the marks of every validation say the same. -/
theorem isConsistent_ofText (catalog : Catalog) (text : String) :
    IsConsistent catalog text (ofText catalog text) := by
  constructor
  case parts => exact fun r hr ↦ valid_iff_errors_eq_nil hr
  case valid => exact valid_ofText_iff_forall
  case marked => exact fun h ↦ valid_ofText_iff_forall_highlights (significant_ne_nil h)
  case errors =>
    intro h r hr p hp
    simp only [List.mem_cons, List.not_mem_nil, or_false] at hr
    rcases hr with rfl | rfl | rfl
    · have hrecords := records_structural (significant_ne_nil h)
      exact exists_shown_of_mem_errors (by simp [reports]) hrecords hp
    · exact exists_shown_of_mem_errors (by simp [reports]) (records_fields catalog text) hp
    · exact exists_shown_of_mem_errors (by simp [reports]) (records_operators catalog text) hp
  case values =>
    intro p hp
    obtain ⟨t, ht, hopen, rfl, hm⟩ := exists_unclosed_of_mem_errors hp
    have hr : (ofText catalog text).values ∈ (ofText catalog text).reports := by simp [reports]
    obtain ⟨k, hk, ⟨hstart, hstop, hmessage⟩, hseverity⟩ := exists_shown_severity hr hm
    exact ⟨t, List.mem_of_mem_filter ht, hopen, rfl, k, hk, hseverity, hmessage, hstart, hstop⟩
  case range =>
    intro m hm
    have hrange := (isRange_of_mem_highlights hm).1
    exact ⟨hrange, hrange.stop.le⟩
  case nonempty => exact fun m hm ↦ (isRange_of_mem_highlights hm).2
  case ordered => exact ordered_highlights _
  case distinct => exact pairwise_highlights _
  case recorded => exact fun o ho ↦ Origin.within_part ho
  case made =>
    intro m hm
    obtain ⟨r, hr, hmr⟩ := exists_report_of_mem hm
    exact exists_origin_of_mem hr hmr
  case kept =>
    intro o ho m hm
    have hpart := (Origin.within_part ho).highlights.subset hm
    exact exists_shown_severity (o.part_mem_reports _) hpart

end Validation

end FilterLang
