import FilterLang.Proofs.Hidden
import FilterLang.Proofs.Matching
import FilterLang.Proofs.Phases

/-!
# Which places are marked

`Mark` lists what the checks can mark in a text: one constructor for each problem, with the tokens
that it is about and the text that is offered in their place. Every mark of a validation is one of
these, or the one that the reading of the tree adds (`mark_or_of_mem`), so what holds of all marks
is shown by one look at the list. `Origin` lists the checks themselves and the reading of the tree,
with the part of a validation that keeps what each of them reports (`Origin.within_part`).

The marks of all parts are pooled: a mark is dropped if an earlier one has the same range and the
same words, whatever its severity, and the rest are put in order. Nothing is lost by this
(`exists_shown`), since the words for a problem tell how bad it is
(`Problem.severity_eq_of_message_eq`): a warning never takes the place of an error.
-/

namespace FilterLang

namespace Check

/-! ### Words and severity -/

/-- How bad a problem is. -/
def Problem.severity : Problem → Severity
  | emptyValue => .warning
  | badPattern _ => .warning
  | _ => .error

/-- Whether two texts differ at a character that both have. -/
def departs : List Char → List Char → Bool
  | c :: cs, d :: ds => c != d || departs cs ds
  | _, _ => false

theorem departs_append {cs ds : List Char} (h : departs cs ds = true) (more more' : List Char) :
    departs (cs ++ more) (ds ++ more') = true := by
  induction cs generalizing ds with
  | nil => simp [departs] at h
  | cons c cs ih =>
    cases ds with
    | nil => simp [departs] at h
    | cons d ds =>
      simp only [departs, List.cons_append, Bool.or_eq_true] at h ⊢
      exact h.imp_right ih

theorem departs_self (cs : List Char) : departs cs cs = false := by
  induction cs with
  | nil => rfl
  | cons c cs ih => simp [departs, ih]

/-- Whether two strings differ at a character that both have, so that they also differ however they
go on. -/
def Departs (s w : String) : Prop := departs s.toList w.toList = true

instance (s w : String) : Decidable (Departs s w) := inferInstanceAs (Decidable (_ = true))

theorem Departs.append {s w : String} (h : Departs s w) (t : String) : Departs (s ++ t) w := by
  have := departs_append h t.toList []
  rwa [List.append_nil, ← String.toList_append] at this

theorem Departs.ne_append {s w : String} (h : Departs s w) (t : String) : s ≠ w ++ t := by
  rintro rfl
  have hself := departs_append h [] t.toList
  rw [List.append_nil, String.toList_append, departs_self] at hself
  cases hself

/-- The words for an error do not begin like those for a warning. -/
theorem Problem.departs_message {p : Problem} (h : p.severity = .error) {w : String}
    (hw : w = "Empty value will match almost nothing" ∨ w = "Not a valid regular expression: ") :
    Departs p.message w := by
  -- The words in front of the first name decide, so whatever is appended to them is put aside.
  rcases hw with rfl | rfl <;> cases p with
  | emptyValue | badPattern => cases h
  | emptyExpression | emptyParentheses | unmatchedQuote | unmatchedClosing | unclosedOpening =>
    decide +kernel
  | startsWithLogic | endsWithLogic | nothingOnLeft | nothingOnRight | unexpectedCharacter
  | missingField | missingOperator | missingValue | unquotedValue =>
    exact .append (.append (by decide +kernel) _) _
  | consecutiveLogic => exact .append (.append (.append (.append (by decide +kernel) _) _) _) _
  | unclosedValue => exact .append (by decide +kernel) _
  | unknownField name hint | unknownOperator name hint =>
    cases hint with
    | none => exact .append (.append (.append (.append (by decide +kernel) _) _) _) _
    | some hint =>
      refine .append (.append (.append (.append (.append (.append ?_ _) _) _) _) _) _
      decide +kernel
  | noTree f =>
    cases f with
    | trailing | unexpectedCharacter | notAField | expectedOperator | expectedValue | unquotedValue
    | duplicateModifier => exact .append (.append (by decide +kernel) _) _
    | unknownOperator => exact .append (.append (.append (by decide +kernel) _) _) _
    | _ => decide +kernel

/-- The words for a problem tell how bad it is. -/
theorem Problem.severity_eq_of_message_eq {p q : Problem} (h : p.message = q.message) :
    p.severity = q.severity := by
  have hne {p q : Problem} (hp : p.severity = .error) (hq : q.severity = .warning) :
      p.message ≠ q.message := by
    cases q with
    | emptyValue =>
      have := (departs_message hp (.inl rfl)).ne_append ""
      rwa [String.append_empty] at this
    | badPattern reason => exact (departs_message hp (.inr rfl)).ne_append reason
    | _ => cases hq
  cases hp : p.severity <;> cases hq : q.severity
  · rfl
  · exact absurd h (hne hp hq)
  · exact absurd h.symm (hne hq hp)
  · rfl

/-! ### The marks of the checks -/

/-- The mark of an error at a token. -/
def Highlight.errorOn (t : Token) (p : Problem) (suggestion : Option String) : Highlight :=
  ⟨t.start, t.stop, .error, p, suggestion⟩

/-- The mark of a warning at a token. -/
def Highlight.warningOn (t : Token) (p : Problem) : Highlight :=
  ⟨t.start, t.stop, .warning, p, none⟩

/-- The marks that the checks can make in a text with the given significant tokens. -/
inductive Mark (catalog : Catalog) (ts : List Token) : Highlight → Prop
  | startsWithLogic {t : Token} (ht : t ∈ ts) (hlogic : t.lexeme.connective?.isSome) :
      Mark catalog ts (.errorOn t (.startsWithLogic t.text) none)
  | endsWithLogic {t : Token} (ht : t ∈ ts) (hlogic : t.lexeme.connective?.isSome) :
      Mark catalog ts (.errorOn t (.endsWithLogic t.text) none)
  | emptyParentheses {front back : List Token} {t u : Token} (hts : ts = front ++ t :: u :: back)
      (ht : t.lexeme = .openParen) (hu : u.lexeme = .closeParen) :
      Mark catalog ts ⟨t.start, u.stop, .error, .emptyParentheses, none⟩
  | consecutiveLogic {t u : Token} (hu : u ∈ ts) (hlogic : u.lexeme.connective?.isSome) :
      Mark catalog ts (.errorOn u (.consecutiveLogic t.text u.text) none)
  | nothingOnLeft {t : Token} (ht : t ∈ ts) (hlogic : t.lexeme.connective?.isSome) :
      Mark catalog ts (.errorOn t (.nothingOnLeft t.text) none)
  | nothingOnRight {t : Token} (ht : t ∈ ts) (hlogic : t.lexeme.connective?.isSome) :
      Mark catalog ts (.errorOn t (.nothingOnRight t.text) none)
  /-- The opening quote of a value that is not closed. -/
  | unmatchedQuote {t : Token} (ht : t ∈ ts) (hopen : t.lexeme.isUnclosed = true) :
      Mark catalog ts ⟨t.start, t.start + 1, .error, .unmatchedQuote, none⟩
  | unexpectedCharacter {t : Token} {c : Char} (ht : t ∈ ts) (hl : t.lexeme = .stray c) :
      Mark catalog ts (.errorOn t (.unexpectedCharacter t.text) none)
  | misspelled {s : Shape} {t : Token} {fix : String} (hs : s ∈ Shape.ofTokens ts)
      (ht : s.operator = some t) (hop : t.lexeme.operator? = none)
      (hfix : knownMisspelling? t.text = some fix) :
      Mark catalog ts (.errorOn t (.unknownOperator t.text fix) fix)
  | unmatchedClosing {t : Token} (ht : t ∈ ts) (hl : t.lexeme = .closeParen) :
      Mark catalog ts (.errorOn t .unmatchedClosing none)
  | unclosedOpening {t : Token} (ht : t ∈ ts) (hl : t.lexeme = .openParen) :
      Mark catalog ts (.errorOn t .unclosedOpening none)
  | missingField {s : Shape} {w : String} {op : Operator} (hs : s ∈ Shape.ofTokens ts)
      (hl : s.field.lexeme = .word w (.operator op)) :
      Mark catalog ts (.errorOn s.field (.missingField w) none)
  | unknownField {s : Shape} (hs : s ∈ Shape.ofTokens ts) (hkind : s.field.lexeme.kind ≠ .field)
      (hop : s.field.lexeme.operator? = none) :
      Mark catalog ts (.errorOn s.field
        (.unknownField s.field.text (Suggestion.suggest s.field.text catalog.names))
        (Suggestion.suggest s.field.text catalog.names))
  | missingOperator {s : Shape} (hs : s ∈ Shape.ofTokens ts) (ht : s.operator = none) :
      Mark catalog ts (.errorOn s.field (.missingOperator s.field.text) none)
  | unknownOperator {s : Shape} {t : Token} (hs : s ∈ Shape.ofTokens ts)
      (hfield : s.field.lexeme.operator? = none) (ht : s.operator = some t)
      (hop : t.lexeme.operator? = none) (hfix : knownMisspelling? t.text = none) :
      Mark catalog ts (.errorOn t
        (.unknownOperator t.text (Suggestion.suggest t.text Operator.keywords))
        (Suggestion.suggest t.text Operator.keywords))
  | missingValue {s : Shape} {t : Token} (hs : s ∈ Shape.ofTokens ts) (ht : s.operator = some t)
      (hop : t.lexeme.operator?.isSome) (hvalue : s.value = none) :
      Mark catalog ts (.errorOn t (.missingValue t.text) none)
  | unquotedValue {s : Shape} {t : Token} (hs : s ∈ Shape.ofTokens ts) (ht : s.value = some t)
      (hword : t.lexeme.isWord = true) :
      Mark catalog ts (.errorOn t (.unquotedValue t.text) (some ("\"" ++ t.text ++ "\"")))
  | emptyValue {t : Token} (ht : t ∈ ts) (hcontent : t.lexeme.content? = some "") :
      Mark catalog ts (.warningOn t .emptyValue)
  | badPattern {s : Shape} {t : Token} {reason : String} (hs : s ∈ Shape.ofTokens ts)
      (ht : s.value = some t) :
      Mark catalog ts (.warningOn t (.badPattern reason))

variable {catalog : Catalog} {text : String} {ts : List Token} {s : Shape} {m : Highlight}

/-- A mark is as bad as its problem. -/
theorem Mark.severity_eq (h : Mark catalog ts m) : m.severity = m.problem.severity := by
  cases h <;> rfl

theorem mem_highlights_on {condition : Bool} {r : Report} :
    m ∈ (Report.on condition r).highlights ↔ condition = true ∧ m ∈ r.highlights := by
  cases condition <;> simp [Report.on, Report.empty]

theorem mem_highlights_errorOn {t : Token} {p : Problem} {suggestion : Option String} :
    m ∈ (Report.errorOn t p suggestion).highlights ↔ m = .errorOn t p suggestion :=
  List.mem_singleton

theorem mark_of_mem_ends (h : m ∈ (Structure.ends ts).highlights) : Mark catalog ts m := by
  unfold Structure.ends at h
  split at h
  · rename_i first last hfirst hlast
    rw [Report.highlights_append, List.mem_append, mem_highlights_on, mem_highlights_on,
      mem_highlights_errorOn, mem_highlights_errorOn, Bool.and_eq_true] at h
    rcases h with ⟨hlogic, rfl⟩ | ⟨⟨hlogic, -⟩, rfl⟩
    · exact .startsWithLogic (List.mem_of_head? hfirst) hlogic
    · exact .endsWithLogic (List.mem_of_getLast? hlast) hlogic
  · cases h

theorem mark_of_mem_neighbours {front back : List Token} {t u : Token}
    (hts : ts = front ++ t :: u :: back) (h : m ∈ (Structure.neighbours t u).highlights) :
    Mark catalog ts m := by
  have ht : t ∈ ts := by simp [hts]
  have hu : u ∈ ts := by simp [hts]
  simp only [Structure.neighbours, Report.highlights_append, List.mem_append, mem_highlights_on,
    Bool.and_eq_true, beq_iff_eq, mem_highlights_errorOn] at h
  rcases h with ((⟨⟨ho, hc⟩, h⟩ | ⟨⟨-, hlogic⟩, rfl⟩) | ⟨⟨-, hlogic⟩, rfl⟩) | ⟨⟨hlogic, -⟩, rfl⟩
  · exact List.mem_singleton.1 h ▸ .emptyParentheses hts ho hc
  · exact .consecutiveLogic hu hlogic
  · exact .nothingOnLeft hu hlogic
  · exact .nothingOnRight ht hlogic

theorem mark_of_mem_alone {t : Token} (ht : t ∈ ts) (h : m ∈ (Structure.alone t).highlights) :
    Mark catalog ts m := by
  unfold Structure.alone at h
  split at h
  · rename_i hl
    exact List.mem_singleton.1 h ▸ .unmatchedQuote ht (by rw [hl]; rfl)
  · rename_i hl
    exact mem_highlights_errorOn.1 h ▸ .unexpectedCharacter ht hl
  · cases h

theorem mark_of_mem_misspelled (hs : s ∈ Shape.ofTokens ts)
    (h : m ∈ (Structure.misspelled s).highlights) : Mark catalog ts m := by
  unfold Structure.misspelled at h
  split at h
  · rename_i t ht
    split at h
    · rename_i fix hop hfix
      exact mem_highlights_errorOn.1 h ▸ .misspelled hs ht hop hfix
    · cases h
  · cases h

theorem mark_of_mem_checkStructure
    (h : m ∈ (checkStructure ts (Shape.ofTokens ts)).highlights) : Mark catalog ts m := by
  unfold checkStructure at h
  split at h
  · exact mark_of_mem_ends h
  · simp only [Report.highlights_append, Report.highlights_join, List.mem_append,
      List.flatMap_map, List.mem_flatMap] at h
    rcases h with ((h | ⟨r, hr, h⟩) | ⟨t, ht, h⟩) | ⟨s, hs, h⟩
    · exact mark_of_mem_ends h
    · obtain ⟨front, t, u, back, hts, rfl⟩ := exists_neighbours_of_mem hr
      exact mark_of_mem_neighbours hts h
    · exact mark_of_mem_alone ht h
    · exact mark_of_mem_misspelled hs h

theorem mark_of_mem_checkParentheses
    (h : m ∈ (checkParentheses text).highlights) :
    Mark catalog (Token.significant (tokenize catalog text)) m := by
  -- The check reads characters, but what it marks are tokens, whatever the catalog is.
  obtain ⟨t, ht, hcase⟩ := (Parentheses.mem_highlights_iff catalog text m).1 h
  obtain ⟨hmem, hparen⟩ := Parentheses.mem_parens.1 ht
  have hts : t ∈ Token.significant (tokenize catalog text) := by
    refine List.mem_filter.2 ⟨hmem, ?_⟩
    rcases hparen with hl | hl <;> rw [hl] <;> rfl
  have hstop := Parentheses.stop_of_isParen hparen
  rcases hcase with ⟨hunmatched, rfl⟩ | ⟨hunclosed, rfl⟩
  · rw [Parentheses.unmatchedAt, ← hstop]
    exact .unmatchedClosing hts hunmatched.1
  · rw [Parentheses.unclosedAt, ← hstop]
    exact .unclosedOpening hts hunclosed.1

theorem mark_of_mem_checkField (hs : s ∈ Shape.ofTokens ts)
    (h : m ∈ (checkField catalog s).highlights) : Mark catalog ts m := by
  unfold checkField at h
  split at h
  · cases h
  · rename_i w op hl
    exact mem_highlights_errorOn.1 h ▸ .missingField hs hl
  · rename_i hfield hop
    refine mem_highlights_errorOn.1 h ▸ .unknownField hs ?_ ?_
    · intro hkind
      obtain ⟨w, hw⟩ := Lexeme.kind_eq_field_iff.1 hkind
      exact hfield w hw
    · rw [Option.eq_none_iff_forall_ne_some]
      intro op hsome
      obtain ⟨w, hw⟩ := Lexeme.operator?_eq_some_iff.1 hsome
      exact hop w op hw

theorem mark_of_mem_checkOperator (hs : s ∈ Shape.ofTokens ts)
    (h : m ∈ (checkOperator s).highlights) : Mark catalog ts m := by
  unfold checkOperator at h
  split at h
  · cases h
  · rename_i hfield
    split at h
    · rename_i ht
      exact mem_highlights_errorOn.1 h ▸ .missingOperator hs ht
    · rename_i t ht
      split at h
      · rename_i hop
        unfold checkOperand at h
        split at h
        · rename_i hvalue
          exact mem_highlights_errorOn.1 h ▸ .missingValue hs ht hop hvalue
        · rename_i value hvalue
          split at h
          · rename_i hword
            exact mem_highlights_errorOn.1 h ▸ .unquotedValue hs hvalue hword
          · cases h
      · rename_i hop
        split at h
        · cases h
        · rename_i hfix
          exact mem_highlights_errorOn.1 h ▸ .unknownOperator hs (by simpa using hfield) ht
            (by simpa using hop) (by simpa using hfix)

theorem mark_of_mem_checkValue {t : Token} (ht : t ∈ ts) (h : m ∈ (checkValue t).highlights) :
    Mark catalog ts m := by
  unfold checkValue at h
  split at h
  · rename_i hopen
    exact List.mem_singleton.1 h ▸ .unmatchedQuote ht hopen
  · split at h
    · rename_i hcontent
      exact List.mem_singleton.1 h ▸ .emptyValue ht (by simpa using hcontent)
    · cases h

theorem value_of_patternFault? {t : Token} {f : Pattern.Fault}
    (h : patternFault? s = some (t, f)) : s.value = some t := by
  simp only [patternFault?, Option.bind_eq_bind, Option.bind_eq_some_iff] at h
  obtain ⟨operator, -, op, -, value, hvalue, content, -, h⟩ := h
  split at h
  · obtain ⟨f', -, h⟩ := Option.bind_eq_some_iff.1 h
    cases h
    exact hvalue
  · cases h

theorem mark_of_mem_checkPattern (hs : s ∈ Shape.ofTokens ts)
    (h : m ∈ (checkPattern s).highlights) : Mark catalog ts m := by
  unfold checkPattern at h
  split at h
  · cases h
  · rename_i t f hf
    exact List.mem_singleton.1 h ▸ .badPattern hs (value_of_patternFault? hf)

theorem mark_of_mem_checkValues (h : m ∈ (checkValues ts (Shape.ofTokens ts)).highlights) :
    Mark catalog ts m := by
  simp only [checkValues, Report.highlights_append, Report.highlights_join, List.mem_append,
    List.flatMap_map, List.mem_flatMap] at h
  rcases h with ⟨t, ht, h⟩ | ⟨s, hs, h⟩
  · exact mark_of_mem_checkValue ht h
  · exact mark_of_mem_checkPattern hs h

theorem mark_of_mem_checkFields (h : m ∈ (checkFields (Shape.ofTokens ts) catalog).highlights) :
    Mark catalog ts m := by
  simp only [checkFields, Report.highlights_join, List.flatMap_map, List.mem_flatMap] at h
  obtain ⟨s, hs, h⟩ := h
  exact mark_of_mem_checkField hs h

theorem mark_of_mem_checkOperators (h : m ∈ (checkOperators (Shape.ofTokens ts)).highlights) :
    Mark catalog ts m := by
  simp only [checkOperators, Report.highlights_join, List.flatMap_map, List.mem_flatMap] at h
  obtain ⟨s, hs, h⟩ := h
  exact mark_of_mem_checkOperator hs h

/-- Whether two marks have the same range and the same words. -/
def Highlight.Same (m k : Highlight) : Prop :=
  m.start = k.start ∧ m.stop = k.stop ∧ m.message = k.message

theorem Highlight.Same.symm {m k : Highlight} (h : m.Same k) : k.Same m :=
  ⟨h.1.symm, h.2.1.symm, h.2.2.symm⟩

end Check

/-! ### The marks of a validation -/

namespace Validation

open Check Check.Report

variable {catalog : Catalog} {text : String} {ms : List Highlight} {m k : Highlight} {r : Report}

/-- Where the findings of a validation come from: the checks, and the reading of the tree. -/
inductive Origin where
  | structural
  | parentheses
  | fields
  | operators
  | values
  | tree
  deriving Repr, DecidableEq

namespace Origin

/-- What an origin reports on a text. -/
def report (catalog : Catalog) (text : String) (o : Origin) : Report :=
  let tokens := Token.significant (tokenize catalog text)
  let shapes := Shape.ofTokens tokens
  match o with
  | structural => checkStructure tokens shapes
  | parentheses => checkParentheses text
  | fields => checkFields shapes catalog
  | operators => checkOperators shapes
  | values => checkValues tokens shapes
  | tree => treeReport (tokenize catalog text) text

/-- Whether an origin reports on a text at all. The checks always do, and the tree is read only if
they find nothing wrong. -/
def Applies (catalog : Catalog) (text : String) : Origin → Prop
  | tree => IsClean catalog text
  | _ => True

/-- The part of a validation that keeps the report of an origin. -/
def part (v : Validation) : Origin → Report
  | structural => v.structural
  | parentheses => v.structural
  | fields => v.fields
  | operators => v.operators
  | values => v.values
  | tree => v.structural

theorem part_mem_reports (v : Validation) (o : Origin) : o.part v ∈ v.reports := by
  cases o <;> simp [part, reports]

/-- The part keeps the whole report. -/
theorem within_part {o : Origin} (h : o.Applies catalog text) :
    (o.report catalog text).Within (o.part (ofText catalog text)) := by
  cases o with
  | structural => exact (within_append_left ..).trans (within_append_left ..)
  | parentheses => exact (within_append_right ..).trans (within_append_left ..)
  | fields => exact .refl _
  | operators => exact .refl _
  | values => exact .refl _
  | tree =>
    rw [part, structural_of_isClean h]
    exact within_append_right ..

end Origin

/-- Every mark of a part is in the report of an origin. -/
theorem exists_origin_of_mem (hr : r ∈ (ofText catalog text).reports) (hm : m ∈ r.highlights) :
    ∃ o : Origin, o.Applies catalog text ∧ m ∈ (o.report catalog text).highlights := by
  simp only [reports, List.mem_cons, List.not_mem_nil, or_false] at hr
  rcases hr with rfl | rfl | rfl | rfl
  · rw [ofText] at hm
    simp only [Report.highlights_append, List.mem_append, mem_highlights_on,
      all_valid_iff_isClean] at hm
    rcases hm with (hm | hm) | ⟨hclean, hm⟩
    · exact ⟨.structural, trivial, hm⟩
    · exact ⟨.parentheses, trivial, hm⟩
    · exact ⟨.tree, hclean, hm⟩
  · exact ⟨.fields, trivial, hm⟩
  · exact ⟨.operators, trivial, hm⟩
  · exact ⟨.values, trivial, hm⟩

/-- A mark is made by a check, or nothing else was wrong and it is made by reading the tree. -/
theorem mark_or_of_mem (hr : r ∈ (ofText catalog text).reports) (hm : m ∈ r.highlights) :
    Mark catalog (Token.significant (tokenize catalog text)) m ∨
      IsClean catalog text ∧ m ∈ (treeReport (tokenize catalog text) text).highlights := by
  obtain ⟨o, ho, hm⟩ := exists_origin_of_mem hr hm
  cases o with
  | structural => exact .inl (mark_of_mem_checkStructure hm)
  | parentheses => exact .inl (mark_of_mem_checkParentheses hm)
  | fields => exact .inl (mark_of_mem_checkFields hm)
  | operators => exact .inl (mark_of_mem_checkOperators hm)
  | values => exact .inl (mark_of_mem_checkValues hm)
  | tree => exact .inr ⟨ho, hm⟩

theorem severity_of_mem_treeReport {tokens : List Token}
    (hm : m ∈ (treeReport tokens text).highlights) : m.severity = m.problem.severity := by
  unfold treeReport at hm
  split at hm
  · cases hm
  · split at hm <;> exact List.mem_singleton.1 hm ▸ rfl

/-- Every mark is as bad as its problem. -/
theorem severity_eq_of_mem (hr : r ∈ (ofText catalog text).reports) (hm : m ∈ r.highlights) :
    m.severity = m.problem.severity := by
  rcases mark_or_of_mem hr hm with h | ⟨-, h⟩
  · exact h.severity_eq
  · exact severity_of_mem_treeReport h

/-! ### What is shown -/

theorem any_same_iff : (ms.any fun k ↦
    k.start == m.start && k.stop == m.stop && k.message == m.message) = true ↔
      ∃ k ∈ ms, k.Same m := by
  simp [Highlight.Same, and_assoc]

theorem distinct_concat (ms : List Highlight) (m : Highlight) :
    distinct (ms ++ [m]) = distinct ms ∧ (∃ k ∈ distinct ms, k.Same m) ∨
      distinct (ms ++ [m]) = distinct ms ++ [m] ∧ ¬ ∃ k ∈ distinct ms, k.Same m := by
  have hstep : distinct (ms ++ [m]) = if (distinct ms).any (fun k ↦
      k.start == m.start && k.stop == m.stop && k.message == m.message) = true then distinct ms
      else distinct ms ++ [m] := by
    rw [distinct, List.foldl_append]
    rfl
  rw [hstep, ← any_same_iff]
  split
  · rename_i h
    exact .inl ⟨rfl, h⟩
  · rename_i h
    exact .inr ⟨rfl, h⟩

/-- No mark is made up. -/
theorem distinct_subset (ms : List Highlight) : distinct ms ⊆ ms := by
  induction ms using List.reverseRecOn with
  | nil => exact List.Subset.refl _
  | append_singleton ms m ih =>
    rcases distinct_concat ms m with ⟨h, -⟩ | ⟨h, -⟩ <;> rw [h]
    · exact fun k hk ↦ List.mem_append_left _ (ih hk)
    · exact List.append_subset.2 ⟨fun k hk ↦ List.mem_append_left _ (ih hk), by simp⟩

/-- Every mark is kept, or one that says the same. -/
theorem exists_mem_distinct (hm : m ∈ ms) : ∃ k ∈ distinct ms, k.Same m := by
  induction ms using List.reverseRecOn with
  | nil => cases hm
  | append_singleton ms k ih =>
    rcases List.mem_append.1 hm with hm | hm
    · obtain ⟨k', hk', hsame⟩ := ih hm
      rcases distinct_concat ms k with ⟨h, -⟩ | ⟨h, -⟩ <;> rw [h]
      · exact ⟨k', hk', hsame⟩
      · exact ⟨k', List.mem_append_left _ hk', hsame⟩
    · obtain rfl := List.mem_singleton.1 hm
      rcases distinct_concat ms m with ⟨h, hsame⟩ | ⟨h, -⟩ <;> rw [h]
      · exact hsame
      · exact ⟨m, by simp, rfl, rfl, rfl⟩

/-- No two of the marks that are kept say the same. -/
theorem pairwise_distinct (ms : List Highlight) :
    (distinct ms).Pairwise fun m k ↦ ¬ m.Same k := by
  induction ms using List.reverseRecOn with
  | nil => exact List.Pairwise.nil
  | append_singleton ms m ih =>
    rcases distinct_concat ms m with ⟨h, -⟩ | ⟨h, hnew⟩ <;> rw [h]
    · exact ih
    · refine List.pairwise_append.2 ⟨ih, List.pairwise_singleton .., fun k hk k' hk' hsame ↦ ?_⟩
      exact hnew ⟨k, hk, List.mem_singleton.1 hk' ▸ hsame⟩

/-- The marks of a text, from all parts. -/
theorem mem_highlights_iff {v : Validation} :
    m ∈ v.highlights ↔ m ∈ distinct (v.reports.flatMap Report.highlights) :=
  (List.mergeSort_perm _ _).mem_iff

theorem exists_report_of_mem {v : Validation} (hm : m ∈ v.highlights) :
    ∃ r ∈ v.reports, m ∈ r.highlights :=
  List.mem_flatMap.1 (distinct_subset _ (mem_highlights_iff.1 hm))

/-- A mark that is shown is made by a check, or by reading the tree where nothing else was wrong. -/
theorem mark_or_of_mem_highlights (hm : m ∈ (ofText catalog text).highlights) :
    Mark catalog (Token.significant (tokenize catalog text)) m ∨
      IsClean catalog text ∧ m ∈ (treeReport (tokenize catalog text) text).highlights := by
  obtain ⟨r, hr, hmr⟩ := exists_report_of_mem hm
  exact mark_or_of_mem hr hmr

/-- Every mark that is made is shown, or one that says the same. -/
theorem exists_shown {v : Validation} (hr : r ∈ v.reports) (hm : m ∈ r.highlights) :
    ∃ k ∈ v.highlights, k.Same m := by
  obtain ⟨k, hk, hsame⟩ := exists_mem_distinct (List.mem_flatMap.2 ⟨r, hr, hm⟩)
  exact ⟨k, mem_highlights_iff.2 hk, hsame⟩

theorem pairwise_highlights (v : Validation) :
    v.highlights.Pairwise fun m k ↦ ¬ m.Same k :=
  ((List.mergeSort_perm _ _).pairwise_iff fun h hsame ↦ h hsame.symm).2 (pairwise_distinct _)

theorem ordered_highlights (v : Validation) : v.highlights.Pairwise fun m k ↦
    m.start < k.start ∨ m.start = k.start ∧ m.stop ≤ k.stop := by
  have h : v.highlights.Pairwise fun m k ↦
      (m.start < k.start || m.start == k.start && m.stop ≤ k.stop : Bool) = true :=
    List.pairwise_mergeSort (by simp; omega) (by simp; omega) _
  exact h.imp (by simp)

/-- What stands for a mark that is not shown is as bad as that mark. -/
theorem exists_shown_severity (hr : r ∈ (ofText catalog text).reports) (hm : m ∈ r.highlights) :
    ∃ k ∈ (ofText catalog text).highlights, k.Same m ∧ k.severity = m.severity := by
  obtain ⟨k, hk, hsame⟩ := exists_shown hr hm
  obtain ⟨r', hr', hk'⟩ := exists_report_of_mem hk
  refine ⟨k, hk, hsame, ?_⟩
  rw [severity_eq_of_mem hr' hk', severity_eq_of_mem hr hm]
  exact Problem.severity_eq_of_message_eq hsame.2.2

end Validation

end FilterLang
