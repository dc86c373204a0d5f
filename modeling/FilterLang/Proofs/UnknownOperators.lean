import FilterLang.Proofs.Corrections

/-!
# Words in the place of an operator

Two checks look at the operators of conditions: that of the structure knows some misspellings, and
that of the operators knows what an operator is. A word that stands where an operator is expected
and is none is marked by exactly one of them, once, and by no other check
(`Validation.marks_unknown_operator`).

Marks on the same token differ in the part that the token has for them. A token that stands behind a
field is no field and no value itself (`Phase`), and a plain word is neither a connective nor a
parenthesis nor a value. So only two kinds of marks are left, and they are the same up to the text
that is offered (`Mark.eq_unknownOperatorAt`).
-/

namespace FilterLang

theorem Lexeme.operator?_eq_none_iff {l : Lexeme} : l.operator? = none ↔ l.kind ≠ .operator := by
  rcases l with ⟨w, _ | _ | _ | _ | _⟩ | _ | _ | _ | _ | _ | _ | _ <;>
    simp [operator?, kind]

namespace Check

open Phase

variable {catalog : Catalog} {text : String} {ts : List Token} {s : Shape} {t u : Token}
  {m : Highlight}

/-- What is offered in the place of a word that is no operator: the correction of a known
misspelling, or else the operator that it may be meant for. -/
def operatorHint (word : String) : Option String :=
  (knownMisspelling? word).or (Suggestion.suggest word Operator.keywords)

/-- The mark on a word in the place of an operator. -/
def unknownOperatorAt (t : Token) : Highlight :=
  .errorOn t (.unknownOperator t.text (operatorHint t.text)) (operatorHint t.text)

/-- A word is a known misspelling if it stands in the table, in any case. -/
theorem isSome_knownMisspelling?_iff {word : String} : (knownMisspelling? word).isSome ↔
    Text.lowercased word ∈ misspellings.flatMap Prod.snd := by
  simp only [knownMisspelling?, Option.isSome_map, List.find?_isSome, List.mem_flatMap,
    List.contains_iff_mem]

/-! ### Marks on one token -/

theorem eq_of_isPlainWord (h : t.isPlainWord = true) :
    ∃ w r, t.lexeme = .word w r ∧ t.lexeme.connective? = none := by
  simp only [Token.isPlainWord, Bool.and_eq_true, Option.isNone_iff_eq_none] at h
  obtain ⟨w, r, hl⟩ := Lexeme.isWord_iff.1 h.1
  exact ⟨w, r, hl, h.2⟩

/-- A token in the place of an operator that is none is only marked as such. -/
theorem Mark.eq_unknownOperatorAt (hts : ts.Pairwise fun t u ↦ t.start < u.start)
    (hs : s ∈ Shape.ofTokens ts) (ht : s.operator = some t) (hop : t.lexeme.operator? = none)
    (h : Mark catalog ts m) (hstart : m.start = t.start) : m = unknownOperatorAt t := by
  obtain ⟨front, back, hsplit, hrun, hplain, -⟩ := exists_operator hs ht
  obtain ⟨w, r, hl, hconn⟩ := eq_of_isPlainWord hplain
  have hsame {u : Token} (hu : u ∈ ts) (hstart : u.start = t.start) : u = t := by
    obtain ⟨front', back', hsplit'⟩ := List.append_of_mem hu
    exact (Token.split_unique hts hsplit' hsplit hstart).2
  have hphase {front' back' : List Token} {u : Token} (hsplit' : ts = front' ++ u :: back')
      (hstart : u.start = t.start) : start.run front' = named s.field := by
    rw [(Token.split_unique hts hsplit' hsplit hstart).1, hrun]
  cases h with
  | startsWithLogic hu hlogic | endsWithLogic hu hlogic | consecutiveLogic hu hlogic
  | nothingOnLeft hu hlogic | nothingOnRight hu hlogic =>
    obtain rfl := hsame hu hstart
    simp [hconn] at hlogic
  | emptyParentheses hu hopen =>
    obtain rfl := hsame (by simp [hu]) hstart
    simp [hl] at hopen
  | unmatchedQuote hu hopen =>
    obtain rfl := hsame hu hstart
    simp [hl, Lexeme.isUnclosed] at hopen
  | unexpectedCharacter hu hchar =>
    obtain rfl := hsame hu hstart
    simp [hl] at hchar
  | unmatchedClosing hu hparen | unclosedOpening hu hparen =>
    obtain rfl := hsame hu hstart
    simp [hl] at hparen
  | emptyValue hu hcontent =>
    obtain rfl := hsame hu hstart
    simp [hl, Lexeme.content?] at hcontent
  | missingField hs' | unknownField hs' | missingOperator hs' =>
    obtain ⟨front', back', hsplit', hrun', -⟩ := exists_field hs'
    rw [hphase hsplit' hstart] at hrun'
    cases hrun'
  | unquotedValue hs' ht' | badPattern hs' ht' =>
    obtain ⟨front', back', operator, hsplit', -, hrun', -⟩ := exists_value hs' ht'
    rw [hphase hsplit' hstart] at hrun'
    cases hrun'
  | missingValue hs' ht' hop' =>
    obtain rfl := hsame (operator_mem hs' ht') hstart
    simp [hop] at hop'
  | misspelled hs' ht' _ hfix =>
    obtain rfl := hsame (operator_mem hs' ht') hstart
    simp [unknownOperatorAt, operatorHint, hfix]
  | unknownOperator hs' _ ht' _ hfix =>
    obtain rfl := hsame (operator_mem hs' ht') hstart
    simp [unknownOperatorAt, operatorHint, hfix]

/-! ### The check that makes the mark -/

section Part

variable {shapes : List Shape} {w : String} {hint : Option String}

theorem problem_ne_of_mem_ends (h : m ∈ (Structure.ends ts).highlights) :
    m.problem ≠ .unknownOperator w hint := by
  unfold Structure.ends at h
  split at h
  · rw [Report.highlights_append, List.mem_append, mem_highlights_on, mem_highlights_on,
      mem_highlights_errorOn, mem_highlights_errorOn] at h
    rcases h with ⟨-, rfl⟩ | ⟨-, rfl⟩ <;> simp [Highlight.errorOn]
  · cases h

theorem problem_ne_of_mem_neighbours (h : m ∈ (Structure.neighbours t u).highlights) :
    m.problem ≠ .unknownOperator w hint := by
  simp only [Structure.neighbours, Report.highlights_append, List.mem_append, mem_highlights_on,
    mem_highlights_errorOn] at h
  rcases h with ((⟨-, h⟩ | ⟨-, rfl⟩) | ⟨-, rfl⟩) | ⟨-, rfl⟩
  · obtain rfl := List.mem_singleton.1 h
    simp
  all_goals simp [Highlight.errorOn]

theorem problem_ne_of_mem_alone (h : m ∈ (Structure.alone t).highlights) :
    m.problem ≠ .unknownOperator w hint := by
  unfold Structure.alone at h
  split at h
  · obtain rfl := List.mem_singleton.1 h
    simp
  · obtain rfl := mem_highlights_errorOn.1 h
    simp [Highlight.errorOn]
  · cases h

/-- The check of the structure only knows misspellings. -/
theorem isSome_of_mem_checkStructure (h : m ∈ (checkStructure ts shapes).highlights)
    (hm : m.problem = .unknownOperator w hint) : (knownMisspelling? w).isSome := by
  unfold checkStructure at h
  split at h
  · exact absurd hm (problem_ne_of_mem_ends h)
  · simp only [Report.highlights_append, Report.highlights_join, List.mem_append,
      List.flatMap_map, List.mem_flatMap] at h
    rcases h with ((h | ⟨r, hr, h⟩) | ⟨t, ht, h⟩) | ⟨s, hs, h⟩
    · exact absurd hm (problem_ne_of_mem_ends h)
    · obtain ⟨front, t, u, back, -, rfl⟩ := exists_neighbours_of_mem hr
      exact absurd hm (problem_ne_of_mem_neighbours h)
    · exact absurd hm (problem_ne_of_mem_alone h)
    · unfold Structure.misspelled at h
      split at h
      · split at h
        · rename_i fix hop hfix
          obtain rfl := mem_highlights_errorOn.1 h
          obtain ⟨rfl, -⟩ := Problem.unknownOperator.inj hm
          rw [hfix, Option.isSome_some]
        · cases h
      · cases h

/-- The check of the operators leaves misspellings to the other. -/
theorem eq_none_of_mem_checkOperators (h : m ∈ (checkOperators shapes).highlights)
    (hm : m.problem = .unknownOperator w hint) : knownMisspelling? w = none := by
  simp only [checkOperators, Report.highlights_join, List.flatMap_map, List.mem_flatMap] at h
  obtain ⟨s, -, h⟩ := h
  unfold checkOperator at h
  split at h
  · cases h
  · split at h
    · obtain rfl := mem_highlights_errorOn.1 h
      cases hm
    · split at h
      · unfold checkOperand at h
        split at h
        · obtain rfl := mem_highlights_errorOn.1 h
          cases hm
        · split at h
          · obtain rfl := mem_highlights_errorOn.1 h
            cases hm
          · cases h
      · split at h
        · cases h
        · rename_i hfix
          obtain rfl := mem_highlights_errorOn.1 h
          obtain ⟨rfl, -⟩ := Problem.unknownOperator.inj hm
          simpa using hfix

theorem problem_ne_of_mem_checkFields (h : m ∈ (checkFields shapes catalog).highlights) :
    m.problem ≠ .unknownOperator w hint := by
  simp only [checkFields, Report.highlights_join, List.flatMap_map, List.mem_flatMap] at h
  obtain ⟨s, -, h⟩ := h
  unfold checkField at h
  split at h
  · cases h
  all_goals
    obtain rfl := mem_highlights_errorOn.1 h
    simp [Highlight.errorOn]

theorem problem_ne_of_mem_checkValues (h : m ∈ (checkValues ts shapes).highlights) :
    m.problem ≠ .unknownOperator w hint := by
  simp only [checkValues, Report.highlights_append, Report.highlights_join, List.mem_append,
    List.flatMap_map, List.mem_flatMap] at h
  rcases h with ⟨t, -, h⟩ | ⟨s, -, h⟩
  · unfold checkValue at h
    split at h
    · obtain rfl := List.mem_singleton.1 h
      simp
    · split at h
      · obtain rfl := List.mem_singleton.1 h
        simp
      · cases h
  · unfold checkPattern at h
    split at h
    · cases h
    · obtain rfl := List.mem_singleton.1 h
      simp

theorem unknownOperatorAt_mem_checkStructure (hs : s ∈ shapes) (ht : s.operator = some t)
    (hts : t ∈ ts) (hop : t.lexeme.operator? = none)
    (hfix : (knownMisspelling? t.text).isSome = true) :
    unknownOperatorAt t ∈ (checkStructure ts shapes).highlights := by
  obtain ⟨fix, hfix⟩ := Option.isSome_iff_exists.1 hfix
  have hmem : unknownOperatorAt t ∈ (Structure.misspelled s).highlights := by
    simp [Structure.misspelled, ht, hop, hfix, unknownOperatorAt, operatorHint,
      mem_highlights_errorOn]
  have hne : ts.isEmpty = false := by
    cases ts with
    | nil => cases hts
    | cons => rfl
  rw [checkStructure, hne]
  simp only [Report.highlights_append, Report.highlights_join, List.mem_append, List.flatMap_map,
    List.mem_flatMap, Bool.false_eq_true, if_false]
  exact .inr ⟨s, hs, hmem⟩

theorem unknownOperatorAt_mem_checkOperators (hs : s ∈ shapes) (ht : s.operator = some t)
    (hfield : s.field.lexeme.operator? = none) (hop : t.lexeme.operator? = none)
    (hfix : knownMisspelling? t.text = none) :
    unknownOperatorAt t ∈ (checkOperators shapes).highlights := by
  simp only [checkOperators, Report.highlights_join, List.flatMap_map, List.mem_flatMap]
  refine ⟨s, hs, ?_⟩
  simp [checkOperator, hfield, ht, hop, hfix, unknownOperatorAt, operatorHint,
    mem_highlights_errorOn]

end Part

end Check

/-! ### What is shown of it -/

namespace Validation

open Check

variable {catalog : Catalog} {text : String} {s : Shape} {t : Token}

/-- A list of one element only has that element once if no element goes with itself. -/
theorem eq_singleton_of_pairwise {α : Type} {R : α → α → Prop} {a : α} {as : List α}
    (hall : ∀ b ∈ as, b = a) (ha : a ∈ as) (hpair : as.Pairwise R) (hirrefl : ¬ R a a) :
    as = [a] := by
  have has : as = List.replicate as.length a := List.eq_replicate_iff.2 ⟨rfl, hall⟩
  rw [has, List.pairwise_replicate] at hpair
  have hpos : 0 < as.length := List.length_pos_of_mem ha
  have hlength : as.length = 1 := by
    have := hpair.resolve_right hirrefl
    omega
  rw [has, hlength]
  rfl

theorem isSome_of_mem_structural {m : Highlight} {w : String} {hint : Option String}
    (h : m ∈ (ofText catalog text).structural.highlights)
    (hm : m.problem = .unknownOperator w hint) : (knownMisspelling? w).isSome := by
  rw [ofText] at h
  simp only [Report.highlights_append, List.mem_append] at h
  rcases h with (h | h) | h
  · exact isSome_of_mem_checkStructure h hm
  · obtain ⟨t, -, ⟨-, rfl⟩ | ⟨-, rfl⟩⟩ := (Parentheses.mem_highlights_iff ∅ text m).1 h <;> cases hm
  · obtain ⟨e, -, hproblem, -⟩ := of_mem_treeReport (mem_highlights_on.1 h).2
    cases hproblem.symm.trans hm

/-- The mark is made by the check that it belongs to. -/
theorem unknownOperatorAt_mem (hs : s ∈ Shape.ofTokens (Token.significant (tokenize catalog text)))
    (ht : s.operator = some t) (hfield : s.field.lexeme.operator? = none)
    (hop : t.lexeme.operator? = none) :
    ((knownMisspelling? t.text).isSome = true →
      unknownOperatorAt t ∈ (ofText catalog text).structural.highlights) ∧
    (knownMisspelling? t.text = none →
      unknownOperatorAt t ∈ (ofText catalog text).operators.highlights) := by
  refine ⟨fun hfix ↦ ?_, unknownOperatorAt_mem_checkOperators hs ht hfield hop⟩
  have hmem := unknownOperatorAt_mem_checkStructure hs ht (Phase.operator_mem hs ht) hop hfix
  rw [ofText]
  simp only [Report.highlights_append, List.mem_append]
  exact .inl (.inl hmem)

/-- A word that stands where the operator of a condition with a field is expected, and is none, is
marked exactly once, as an error. The check of the structure marks it if it is a known misspelling,
in any case, and the check of the operators marks it otherwise. -/
theorem marks_unknown_operator (catalog : Catalog) (text : String) (s : Shape) (t : Token)
    (hs : s ∈ Shape.ofTokens (Token.significant (tokenize catalog text)))
    (ht : s.operator = some t) (hfield : s.field.lexeme.kind ≠ .operator)
    (hop : t.lexeme.kind ≠ .operator) :
    let v := ofText catalog text
    let m := unknownOperatorAt t
    let misspelled := Text.lowercased t.text ∈ misspellings.flatMap Prod.snd
    (v.highlights.filter fun k ↦ k.start = t.start ∧ k.stop = t.stop) = [m] ∧
      m.severity = .error ∧ (m ∈ v.structural.highlights ↔ misspelled) ∧
      (m ∈ v.operators.highlights ↔ ¬ misspelled) ∧ m ∉ v.fields.highlights ∧
      m ∉ v.values.highlights := by
  intro v m misspelled
  rw [← Lexeme.operator?_eq_none_iff] at hfield hop
  have hpair := Token.pairwise_significant catalog text
  have hmisspelled : (knownMisspelling? t.text).isSome ↔ misspelled := isSome_knownMisspelling?_iff
  obtain ⟨hstructural, hoperators⟩ := unknownOperatorAt_mem hs ht hfield hop
  have hmade : ∃ r ∈ v.reports, m ∈ r.highlights := by
    cases hfix : knownMisspelling? t.text with
    | none => exact ⟨v.operators, by simp [reports], hoperators hfix⟩
    | some fix => exact ⟨v.structural, by simp [reports], hstructural (by rw [hfix]; rfl)⟩
  obtain ⟨r, hr, hmr⟩ := hmade
  -- Something is wrong, so the reader of trees is not asked.
  have hclean : ¬ IsClean catalog text := by
    intro hclean
    obtain ⟨e, -, hproblem, -⟩ := of_mem_treeReport (mem_treeReport_of_isClean hclean hr hmr rfl)
    cases hproblem
  have honly : ∀ k ∈ v.highlights, k.start = t.start → k = m := by
    intro k hk hstart
    have hmark := (mark_or_of_mem_highlights hk).resolve_right fun h ↦ hclean h.1
    exact hmark.eq_unknownOperatorAt hpair hs ht hop hstart
  have hshown : m ∈ v.highlights := by
    obtain ⟨k, hk, hsame⟩ := exists_shown hr hmr
    rwa [← honly k hk hsame.1]
  refine ⟨?once, rfl, ?structural, ?operators, ?fields, ?values⟩
  case once =>
    refine eq_singleton_of_pairwise (fun k hk ↦ ?_) (List.mem_filter.2 ⟨hshown, ?_⟩)
      ((pairwise_highlights v).filter _) fun h ↦ h ⟨rfl, rfl, rfl⟩
    · obtain ⟨hk, hspan⟩ := List.mem_filter.1 hk
      exact honly k hk (by simpa using (of_decide_eq_true hspan).1)
    · simp [m, unknownOperatorAt, Highlight.errorOn]
  case structural =>
    rw [← hmisspelled]
    exact ⟨fun h ↦ isSome_of_mem_structural h rfl, hstructural⟩
  case operators =>
    rw [← hmisspelled, Option.not_isSome_iff_eq_none]
    exact ⟨fun h ↦ eq_none_of_mem_checkOperators h rfl, hoperators⟩
  case fields => exact fun h ↦ problem_ne_of_mem_checkFields h rfl
  case values => exact fun h ↦ problem_ne_of_mem_checkValues h rfl

/-- A misspelling that is known beside a word that is no operator. -/
theorem marks_unknown_operator_of_two :
    let text := "channel_name CONTANS 'x' AND group_title like 'y'"
    let contans : Token := ⟨.word "CONTANS" .unknown, 13⟩
    let like : Token := ⟨.word "like" .unknown, 41⟩
    unknownOperatorAt contans ∈ (ofText .builtin text).structural.highlights ∧
      unknownOperatorAt like ∈ (ofText .builtin text).operators.highlights := by
  intro text contans like
  have hshapes : Shape.ofTokens (Token.significant (tokenize .builtin text)) =
      [⟨⟨.word "channel_name" .field, 0⟩, contans, some ⟨.quoted '\'' "x", 21⟩⟩,
        ⟨⟨.word "group_title" .field, 29⟩, like, some ⟨.quoted '\'' "y", 46⟩⟩] := by
    decide +kernel
  have hcontans := marks_unknown_operator .builtin text _ contans
    (hshapes ▸ List.mem_cons_self) rfl (by decide) (by decide)
  have hlike := marks_unknown_operator .builtin text _ like
    (hshapes ▸ List.mem_cons_of_mem _ List.mem_cons_self) rfl (by decide) (by decide)
  exact ⟨hcontans.2.2.1.2 (by decide +kernel), hlike.2.2.2.1.2 (by decide +kernel)⟩

end Validation

end FilterLang
