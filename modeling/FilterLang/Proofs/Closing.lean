import FilterLang.Proofs.Corrections
import FilterLang.Proofs.Matching

/-!
# Closing parentheses and the reader of trees

The reader of trees has two faults about closing parentheses, and the check of the parentheses has
its own reports of them. What the reader calls unmatched is reported by the check too: in front of
it stands a complete expression, whose parentheses are balanced. With a missing parenthesis it is
different. The reader misses it wherever an expression in parentheses is complete and anything else
than a connective follows (`IsLeftOpen`), also where the closing parenthesis comes later. The check
reports the opening one exactly if nothing later closes it (`Tree.parse_closing`).

A validation shows what the reader says only if no check finds anything. So it never shows the first
fault, and it shows the second one only where all parentheses are balanced.
-/

namespace FilterLang

/-- Whether a fault is about a closing parenthesis. -/
def ParseFault.IsClosing (f : ParseFault) : Prop := f = .missingClosing ∨ f = .unmatchedClosing

namespace Expression

open Grammar

variable {e : Refusal} {ts : List Token}

/-! ### Conditions -/

theorem not_isClosing_of_modifiers {f : Flags} (h : modifiers f ts = .error e) :
    ¬ e.fault.IsClosing := by
  obtain ⟨m, t, rfl⟩ := modifiers_eq_error h
  simp [ParseFault.IsClosing]

theorem not_isClosing_of_field (h : field ts = .error e) : ¬ e.fault.IsClosing := by
  cases ts with
  | nil =>
    cases h
    simp [ParseFault.IsClosing]
  | cons t ts =>
    rcases t with ⟨⟨v, _ | _ | _ | _ | _⟩ | _ | _ | _ | _ | _ | _ | _, start⟩ <;> cases h <;>
      simp [ParseFault.IsClosing]

theorem not_isClosing_of_operator {name : String} {f : Flags} (h : operator name f ts = .error e) :
    ¬ e.fault.IsClosing := by
  cases ts with
  | nil =>
    cases h
    simp [ParseFault.IsClosing]
  | cons t ts =>
    cases hop : t.lexeme.operator? with
    | some op =>
      obtain ⟨m, rfl⟩ := operator_eq_error_of_operator? hop h
      simp [ParseFault.IsClosing]
    | none =>
      rcases t with ⟨⟨v, _ | _ | _ | _ | _⟩ | _ | _ | _ | _ | _ | _ | _, start⟩
      case word.operator => cases hop
      all_goals
        cases h
        simp [ParseFault.IsClosing]

theorem not_isClosing_of_value {c : Comparison} (h : value c ts = .error e) :
    ¬ e.fault.IsClosing := by
  cases ts with
  | nil =>
    cases h
    simp [ParseFault.IsClosing]
  | cons t ts =>
    rcases t with ⟨_ | _ | _ | _ | _ | _ | _, start⟩ <;> cases h <;> simp [ParseFault.IsClosing]

theorem not_isClosing_of_condition (h : condition ts = .error e) : ¬ e.fault.IsClosing := by
  rcases condition_eq_error_iff.1 h with h | ⟨_, _, -, h⟩
  · exact not_isClosing_of_modifiers h
  rcases h with h | ⟨_, _, -, h⟩
  · exact not_isClosing_of_field h
  rcases h with h | ⟨_, _, -, h⟩
  · exact not_isClosing_of_modifiers h
  rcases h with h | ⟨_, _, -, h⟩
  · exact not_isClosing_of_operator h
  · exact not_isClosing_of_value h

/-! ### Expressions in parentheses -/

/-- An opening parenthesis that is left open: a complete expression comes after it, and what follows
is neither a closing parenthesis nor a connective. -/
structure IsLeftOpen (opening : Token) (inner rest : List Token) : Prop where
  opening : opening.lexeme = .openParen
  inner : ∃ us, Derives maxNesting (.chain .or) (inner.map Token.lexeme) us
  rest : ∀ t ∈ rest.head?, ¬ Closes t.lexeme

/-- Whether a refusal blames a parenthesis among some tokens that is left open. -/
def BlamesLeftOpen (e : Refusal) (ts : List Token) : Prop :=
  ∃ front t inner rest, ts = front ++ t :: (inner ++ rest) ∧ e = ⟨.missingClosing, some t⟩ ∧
    IsLeftOpen t inner rest

theorem BlamesLeftOpen.append (h : BlamesLeftOpen e ts) (front : List Token) :
    BlamesLeftOpen e (front ++ ts) := by
  obtain ⟨front', t, inner, rest, rfl, he, hopen⟩ := h
  exact ⟨front ++ front', t, inner, rest, by simp, he, hopen⟩

/-- A fault about a closing parenthesis is none of a condition. -/
theorem Arises.blamesLeftOpen (h : Arises e ts) (he : e.fault.IsClosing) : BlamesLeftOpen e ts := by
  induction h with
  | condition h => exact absurd he (not_isClosing_of_condition h)
  | nothing he' | nested _ he' | empty _ he' =>
    rw [he'] at he
    simp [ParseFault.IsClosing] at he
  | @missing t inner rest us ht hinner hrest he' =>
    exact ⟨[], t, inner, rest, rfl, he', ht, ⟨us, hinner⟩, hrest⟩
  | @enclosed t _ _ _ ih => exact ih.append [t]
  | @joined t _ front _ _ ih =>
    rw [List.append_cons]
    exact ih.append (front ++ [t])

/-- Whole tokens are refused for a closing parenthesis if one is missing, or if one follows a
complete expression. -/
theorem blames_of_whole (h : whole ts = .error e) (he : e.fault.IsClosing) :
    BlamesLeftOpen e ts ∨ ∃ front t back us, ts = front ++ t :: back ∧
      e = ⟨.unmatchedClosing, some t⟩ ∧ t.lexeme = .closeParen ∧
      Derives maxNesting (.chain .or) (front.map Token.lexeme) us := by
  by_cases hts : ts = []
  · subst hts
    cases h
    simp [ParseFault.IsClosing] at he
  · rcases (whole_eq_error_iff hts).1 h with h | ⟨tree, _, hread, t, back, rfl, hfault⟩
    · exact .inl ((arises_of_expression (Nat.le_refl _) h).blamesLeftOpen he)
    · obtain ⟨front, us, rfl, hd, -⟩ := (accepts_expression maxNesting _ _ _).1 hread
      split at hfault
      · rename_i ht
        exact .inr ⟨front, t, back, us, rfl, hfault.symm, ht, hd⟩
      · subst hfault
        simp [ParseFault.IsClosing] at he

end Expression

/-! ### Partners -/

namespace Check.Parentheses

open Grammar

variable {t : Token} {ts us front inner rest : List Token}

theorem parens_significant (ts : List Token) : parens (Token.significant ts) = parens ts := by
  rw [parens, Token.significant, List.filter_filter, parens]
  refine List.filter_congr fun t _ ↦ ?_
  cases hblank : t.lexeme.isBlank
  · simp
  · obtain ⟨l, start⟩ := t
    cases l with
    | blank => rfl
    | _ => cases hblank

/-- The parentheses of a phrase are balanced. -/
theorem balanced_of_derives {n : Nat} {p : Phrase} {trees : List Tree}
    (h : Derives n p (ts.map Token.lexeme) trees) : Balanced (parens ts) := by
  refine h.token_induction (motive := fun _ ts _ ↦ Balanced (parens ts)) ?condition ?parentheses
    ?single ?joined
  case condition =>
    intro ts c hc
    have hnil : parens ts = [] := by
      refine List.eq_nil_iff_forall_not_mem.2 fun t ht ↦ ?_
      obtain ⟨hmem, ho | hc'⟩ := mem_parens.1 ht
      · exact (hc.isPart _ (List.mem_map_of_mem hmem)).ne_paren.1 ho
      · exact (hc.isPart _ (List.mem_map_of_mem hmem)).ne_paren.2 hc'
    rw [hnil]
    exact .nil
  case parentheses =>
    intro opening ts closing us ho hc ih
    have hparens : parens (opening :: (ts ++ [closing])) = opening :: (parens ts ++ [closing]) := by
      simp [parens, ho, hc, Lexeme.kind]
    rw [hparens]
    exact ih.enclosed ho hc
  case single => exact fun k ts us ih ↦ ih
  case joined =>
    intro k ts t ts' us us' ih ht ih'
    have hkind : (t.lexeme.kind == .parenthesis) = false := by
      by_contra hkind
      have hmem : t ∈ parens [t] := by simpa [parens] using hkind
      exact (mem_parens.1 hmem).2.elim (ne_paren_of_connective? ht).1 (ne_paren_of_connective? ht).2
    have hparens : parens (ts ++ t :: ts') = parens ts ++ parens ts' := by simp [parens, hkind]
    rw [hparens]
    exact ih.append ih'

/-- Whether some parenthesis closes what is open in front of others. -/
def ClosesIn (ps : List Token) : Prop :=
  ∃ inner closing back, ps = inner ++ closing :: back ∧ closing.lexeme = .closeParen ∧
    Balanced inner

/-- What is balanced decides nothing about the parentheses around it. -/
theorem isUnclosed_iff (ht : t.lexeme = .openParen) (hinner : Balanced inner)
    (hps : ∀ u ∈ front ++ t :: (inner ++ rest), IsParen u)
    (hnodup : (front ++ t :: (inner ++ rest)).Nodup) :
    IsUnclosed (front ++ t :: (inner ++ rest)) t ↔ ¬ ClosesIn rest := by
  have hsub : (front ++ t :: rest).Sublist (front ++ t :: (inner ++ rest)) :=
    ((List.sublist_append_right inner rest).cons_cons t).append_left front
  have hnodup' : (front ++ t :: rest).Nodup := hnodup.sublist hsub
  have hfold : (front ++ t :: (inner ++ rest)).foldl meet [] = (front ++ t :: rest).foldl meet [] := by
    rw [List.foldl_append, List.foldl_cons, List.foldl_append, hinner.foldl_meet,
      List.foldl_append, List.foldl_cons]
  rw [← mem_foldl_meet_nil_iff hps hnodup, hfold,
    mem_foldl_meet_nil_iff (fun u hu ↦ hps u (hsub.subset hu)) hnodup']
  constructor
  · rintro ⟨-, before, after, hsplit, hnone⟩
    have hfront : t ∉ front ∧ t ∉ rest := by
      have := (List.nodup_cons.1 (List.nodup_middle.1 hnodup')).1
      rwa [List.mem_append, not_or] at this
    obtain ⟨rfl, -, rfl⟩ := (List.append_cons_inj_of_notMem hfront.1 hfront.2).1 hsplit
    exact hnone
  · exact fun hnone ↦ ⟨ht, front, rest, rfl, hnone⟩

end Check.Parentheses

/-! ### Texts -/

open Check Check.Parentheses Expression

variable {text : String} {o : Nat}

/-- The closing parenthesis that the reader calls unmatched is one. -/
theorem Tree.isUnmatched_of_parse (h : Tree.parse text = .error ⟨.unmatchedClosing, o⟩) :
    ∃ t ∈ parens (tokenize ∅ text), t.start = o ∧ IsUnmatched (parens (tokenize ∅ text)) t := by
  obtain ⟨r, hr, he⟩ := parse_eq_error h
  obtain ⟨hfault, hoffset⟩ := ParseError.mk.inj he
  have hparens := parens_significant (tokenize ∅ text)
  rcases blames_of_whole hr (.inr hfault.symm) with
    ⟨_, t, _, _, -, rfl, -⟩ | ⟨front, t, back, us, hsplit, rfl, ht, hd⟩
  · cases hfault
  · have hps : parens (tokenize ∅ text) = parens front ++ t :: parens back := by
      rw [← hparens, hsplit]
      simp [parens, ht, Lexeme.kind]
    rw [hps]
    refine ⟨t, by simp, hoffset.symm, ht, parens front, parens back, rfl, ?_⟩
    -- A complete expression leaves no parenthesis open.
    refine (foldl_meet_eq_nil fun u hu ↦ (mem_parens.1 hu).2).1 ?_
    exact (balanced_of_derives hd).foldl_meet []

/-- The opening parenthesis whose partner the reader misses is left open, and has no partner exactly
if nothing after it closes it. -/
theorem Tree.isLeftOpen_of_parse (h : Tree.parse text = .error ⟨.missingClosing, o⟩) :
    ∃ front t inner rest,
      Token.significant (tokenize ∅ text) = front ++ t :: (inner ++ rest) ∧ t.start = o ∧
      IsLeftOpen t inner rest ∧
      (IsUnclosed (parens (tokenize ∅ text)) t ↔ ¬ ClosesIn (parens rest)) := by
  obtain ⟨r, hr, he⟩ := parse_eq_error h
  obtain ⟨hfault, hoffset⟩ := ParseError.mk.inj he
  have hparens := parens_significant (tokenize ∅ text)
  rcases blames_of_whole hr (.inl hfault.symm) with
    ⟨front, t, inner, rest, hsplit, rfl, hopen⟩ | ⟨_, t, _, _, -, rfl, -, -⟩
  · refine ⟨front, t, inner, rest, hsplit, hoffset.symm, hopen, ?_⟩
    have hps : parens (tokenize ∅ text) =
        parens front ++ t :: (parens inner ++ parens rest) := by
      rw [← hparens, hsplit]
      simp [parens, hopen.opening, Lexeme.kind]
    obtain ⟨us, hd⟩ := hopen.inner
    have hnodup : (parens (tokenize ∅ text)).Nodup := nodup_parens ∅ text
    rw [hps] at hnodup ⊢
    refine isUnclosed_iff hopen.opening (balanced_of_derives hd) (fun u hu ↦ ?_) hnodup
    rw [← hps] at hu
    exact (mem_parens.1 hu).2
  · cases hfault

/-! ### Reports -/

namespace Check.Parentheses

variable {catalog : Catalog} {text : String} {t : Token}

theorem unmatchedAt_mem (ht : t ∈ parens (tokenize catalog text))
    (h : IsUnmatched (parens (tokenize catalog text)) t) :
    unmatchedAt t.start ∈ (checkParentheses text).highlights :=
  (mem_highlights_iff catalog text _).2 ⟨t, ht, .inl ⟨h, rfl⟩⟩

theorem unclosedAt_mem_iff (ht : t ∈ parens (tokenize catalog text)) :
    unclosedAt t.start ∈ (checkParentheses text).highlights ↔
      IsUnclosed (parens (tokenize catalog text)) t := by
  refine (mem_highlights_iff catalog text _).trans ?_
  constructor
  · rintro ⟨u, hu, ⟨-, h⟩ | ⟨hunclosed, h⟩⟩
    · cases congrArg Highlight.problem h
    · -- The report is about the only parenthesis at its byte.
      have hstart : t.start = u.start := congrArg Highlight.start h
      obtain ⟨front, back, hfront⟩ := List.append_of_mem ht
      obtain ⟨front', back', hfront'⟩ := List.append_of_mem hu
      obtain ⟨-, rfl⟩ := Token.split_unique (pairwise_parens catalog text) hfront hfront' hstart
      exact hunclosed
  · exact fun h ↦ ⟨t, ht, .inr ⟨h, rfl⟩⟩

end Check.Parentheses

/-- What is shown of the reader's faults about closing parentheses. -/
theorem Validation.balanced_of_noTree {catalog : Catalog} {m : Highlight}
    (hm : m ∈ (ofText catalog text).highlights) : m.problem ≠ .noTree .unmatchedClosing ∧
      (m.problem = .noTree .missingClosing → Balanced (parens (tokenize catalog text))) := by
  rcases mark_or_of_mem_highlights hm with h | ⟨hclean, h⟩
  · -- No check says what the reader does.
    cases h <;> exact ⟨by simp [Highlight.errorOn, Highlight.warningOn], by rintro ⟨⟩⟩
  · refine ⟨fun hproblem ↦ ?_, fun _ ↦ (errors_eq_nil_iff catalog text).1 hclean.parentheses⟩
    obtain ⟨⟨fault, o⟩, he, hfault, -⟩ := of_mem_treeReport h
    obtain rfl : .unmatchedClosing = fault := Problem.noTree.inj (hproblem.symm.trans hfault)
    obtain ⟨t, ht, rfl, hunmatched⟩ := Tree.isUnmatched_of_parse he
    have hreport := unmatchedAt_mem ht hunmatched
    rw [List.map_eq_nil_iff.1 ((errors_eq text).symm.trans hclean.parentheses)] at hreport
    cases hreport

/-- Where the reader of trees finds an unmatched closing parenthesis, the check of the parentheses
reports it. Where it misses a closing parenthesis, something else follows a complete expression, and
the check reports the opening one exactly if no parenthesis after that closes it. A validation never
shows the first fault, and the second one only where all parentheses are balanced. -/
theorem Tree.parse_closing (text : String) :
    let report := checkParentheses text
    (∀ o, parse text = .error ⟨.unmatchedClosing, o⟩ → unmatchedAt o ∈ report.highlights) ∧
    (∀ o, parse text = .error ⟨.missingClosing, o⟩ → ∃ front t inner rest,
      Token.significant (tokenize ∅ text) = front ++ t :: (inner ++ rest) ∧ t.start = o ∧
      IsLeftOpen t inner rest ∧ (unclosedAt o ∈ report.highlights ↔ ¬ ClosesIn (parens rest))) ∧
    ∀ catalog, ∀ m ∈ (Validation.ofText catalog text).highlights,
      m.problem ≠ .noTree .unmatchedClosing ∧
      (m.problem = .noTree .missingClosing → Balanced (parens (tokenize catalog text))) := by
  intro report
  refine ⟨fun o h ↦ ?unmatched, fun o h ↦ ?missing, fun catalog m ↦ Validation.balanced_of_noTree⟩
  case unmatched =>
    obtain ⟨t, ht, rfl, hunmatched⟩ := isUnmatched_of_parse h
    exact unmatchedAt_mem ht hunmatched
  case missing =>
    obtain ⟨front, t, inner, rest, hsplit, rfl, hopen, hunclosed⟩ := isLeftOpen_of_parse h
    refine ⟨front, t, inner, rest, hsplit, rfl, hopen, ?_⟩
    have ht : t ∈ parens (tokenize ∅ text) := by
      rw [← parens_significant, hsplit]
      exact mem_parens.2 ⟨by simp, .inl hopen.opening⟩
    rw [← hunclosed]
    exact unclosedAt_mem_iff ht

/-- A closing parenthesis too many, and one too few. -/
theorem Tree.parse_closing_of_unbalanced :
    parse "a contains 'x')" = .error ⟨.unmatchedClosing, 14⟩ ∧
      unmatchedAt 14 ∈ (checkParentheses "a contains 'x')").highlights ∧
      parse "(a contains 'x'" = .error ⟨.missingClosing, 0⟩ ∧ ∃ t inner rest,
        t.start = 0 ∧ IsLeftOpen t inner rest ∧ ¬ ClosesIn (parens rest) := by
  have hclosing : parse "a contains 'x')" = .error ⟨.unmatchedClosing, 14⟩ := by decide +kernel
  have hopening : parse "(a contains 'x'" = .error ⟨.missingClosing, 0⟩ := by decide +kernel
  refine ⟨hclosing, (parse_closing _).1 14 hclosing, hopening, ?_⟩
  obtain ⟨front, t, inner, rest, -, hstart, hopen, hreport⟩ := (parse_closing _).2.1 0 hopening
  exact ⟨t, inner, rest, hstart, hopen, hreport.1 (by decide +kernel)⟩

/-- A word between a complete condition and its closing parenthesis. The parentheses are balanced,
and yet one is said to be missing. -/
theorem Tree.parse_closing_of_word :
    let text := "(channel_name contains \"x\" group_title)"
    parse text = .error ⟨.missingClosing, 0⟩ ∧ (checkParentheses text).highlights = [] ∧
      Balanced (parens (tokenize .builtin text)) ∧
      ⟨0, 1, .error, .noTree .missingClosing, none⟩ ∈
        (Validation.ofText .builtin text).highlights := by
  intro text
  have hnone : (checkParentheses text).highlights = [] := by decide +kernel
  refine ⟨by decide +kernel, hnone, (errors_eq_nil_iff _ text).1 ?_, by decide +kernel⟩
  rw [errors_eq, hnone]
  rfl

end FilterLang
