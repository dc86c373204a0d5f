import FilterLang.Proofs.Balance
import FilterLang.Proofs.Blame
import FilterLang.Proofs.Findings

/-!
# Parentheses without a partner

The check of the parentheses says which ones have no partner, and it finds them with a stack. Here
is what that means without one: a closing parenthesis has a partner if some opening parenthesis in
front of it is kept apart from it by a balanced sequence only, and an opening parenthesis if some
closing one after it is. `Balanced` is the usual inductive description of such sequences.

The stack is empty exactly where no opening parenthesis waits for its partner (`foldl_meet_eq_nil`),
and what comes after an opening parenthesis either closes it or leaves it on the stack
(`closes_or_stays`). From the first follows which closing parentheses are reported, from the second
which opening ones, and also that a text without reports is balanced. That the verdict agrees with
the reports is what `Report.Records` says of the check.
-/

namespace FilterLang.Check.Parentheses

variable {t u : Token} {stack ts us : List Token}

/-! ### Balanced sequences -/

/-- Sequences of parentheses that all have a partner. -/
inductive Balanced : List Token → Prop
  | nil : Balanced []
  | pair {opening closing : Token} {inner rest : List Token} (ho : opening.lexeme = .openParen)
      (hc : closing.lexeme = .closeParen) (hi : Balanced inner) (hr : Balanced rest) :
      Balanced (opening :: (inner ++ closing :: rest))

theorem Balanced.append (h : Balanced ts) (h' : Balanced us) : Balanced (ts ++ us) := by
  induction h with
  | nil => exact h'
  | pair ho hc hi _ _ ih =>
    rw [List.cons_append, List.append_assoc, List.cons_append]
    exact .pair ho hc hi ih

/-- A balanced sequence in parentheses. -/
theorem Balanced.enclosed {opening closing : Token} (ho : opening.lexeme = .openParen)
    (hc : closing.lexeme = .closeParen) (h : Balanced ts) :
    Balanced (opening :: (ts ++ [closing])) :=
  .pair ho hc h .nil

/-- Whether a closing parenthesis has no partner in front of it. -/
def IsUnmatched (ps : List Token) (t : Token) : Prop :=
  t.lexeme = .closeParen ∧ ∃ before after, ps = before ++ t :: after ∧
    ¬ ∃ front opening inner, before = front ++ opening :: inner ∧
      opening.lexeme = .openParen ∧ Balanced inner

/-- Whether an opening parenthesis has no partner after it. -/
def IsUnclosed (ps : List Token) (t : Token) : Prop :=
  t.lexeme = .openParen ∧ ∃ before after, ps = before ++ t :: after ∧
    ¬ ∃ inner closing back, after = inner ++ closing :: back ∧
      closing.lexeme = .closeParen ∧ Balanced inner

/-! ### The stack -/

/-- Whether a token is a parenthesis. -/
def IsParen (t : Token) : Prop := t.lexeme = .openParen ∨ t.lexeme = .closeParen

/-- The open parentheses after one more parenthesis, the innermost first. -/
def meet (stack : List Token) (t : Token) : List Token :=
  if t.lexeme = .openParen then t :: stack else stack.tail

/-- The closing parentheses that come while none is open. -/
def unpaired (stack : List Token) : List Token → List Token
  | [] => []
  | t :: ts => (if t.lexeme = .closeParen ∧ stack = [] then [t] else []) ++
      unpaired (meet stack t) ts

theorem meet_of_openParen (ht : t.lexeme = .openParen) : meet stack t = t :: stack := if_pos ht

theorem meet_of_closeParen (ht : t.lexeme = .closeParen) : meet stack t = stack.tail :=
  if_neg (by simp [ht])

theorem mem_parens : t ∈ parens ts ↔ t ∈ ts ∧ IsParen t := by
  rw [parens, List.mem_filter, IsParen]
  refine and_congr_right fun _ ↦ ?_
  obtain ⟨⟨_, _ | _ | _ | _ | _⟩ | _ | _ | _ | _ | _ | _ | _, start⟩ := t <;> simp [Lexeme.kind]

/-- The places that the check reports are those of the parentheses that it leaves over. -/
theorem matchTokens_eq (hts : ∀ t ∈ ts, IsParen t) : matchTokens (stack.map Token.start) ts =
    ⟨(unpaired stack ts).map Token.start, ((ts.foldl meet stack).map Token.start).reverse⟩ := by
  induction ts generalizing stack with
  | nil => rfl
  | cons t ts ih =>
    obtain ⟨ht, hts⟩ := List.forall_mem_cons.1 hts
    rw [unpaired, List.foldl_cons]
    rcases ht with ht | ht
    · have hopen := @ih (t :: stack) hts
      rw [matchTokens_openParen ht, meet_of_openParen ht, if_neg (by simp [ht])]
      exact hopen
    · rw [meet_of_closeParen ht]
      cases stack with
      | nil =>
        have hclose := @ih [] hts
        obtain ⟨l, start⟩ := t
        obtain rfl : l = .closeParen := ht
        rw [List.map_nil] at hclose ⊢
        rw [matchTokens, hclose, if_pos ⟨rfl, rfl⟩]
        rfl
      | cons o stack =>
        rw [List.map_cons, matchTokens_closeParen ht, if_neg (by simp)]
        exact ih hts

/-- A balanced sequence leaves the stack as it is. -/
theorem Balanced.foldl_meet (h : Balanced ts) (stack : List Token) :
    ts.foldl meet stack = stack := by
  induction h generalizing stack with
  | nil => rfl
  | pair ho hc _ _ ihi ihr =>
    rw [List.foldl_cons, List.foldl_append, List.foldl_cons, meet_of_openParen ho, ihi,
      meet_of_closeParen hc, List.tail_cons, ihr]

/-- The stack holds parentheses that were met, the last first. -/
theorem sublist_foldl_meet (stack ts : List Token) :
    (ts.foldl meet stack).Sublist (ts.reverse ++ stack) := by
  induction ts generalizing stack with
  | nil => exact List.Sublist.refl _
  | cons t ts ih =>
    have hmeet : (meet stack t).Sublist (t :: stack) := by
      unfold meet
      split
      · exact List.Sublist.refl _
      · exact (List.tail_sublist stack).cons t
    rw [List.foldl_cons, List.reverse_cons, List.append_assoc, List.singleton_append]
    exact (ih _).trans (hmeet.append_left _)

theorem mem_or_mem_of_mem_foldl_meet (h : t ∈ ts.foldl meet stack) : t ∈ ts ∨ t ∈ stack := by
  simpa using (sublist_foldl_meet stack ts).subset h

/-- Only opening parentheses come onto the stack. -/
theorem openParen_of_mem_foldl_meet (h : t ∈ ts.foldl meet stack) :
    t.lexeme = .openParen ∨ t ∈ stack := by
  induction ts generalizing stack with
  | nil => exact .inr h
  | cons u ts ih =>
    rcases ih h with ht | ht
    · exact .inl ht
    · unfold meet at ht
      split at ht
      · rename_i hu
        rcases List.mem_cons.1 ht with rfl | ht
        · exact .inl hu
        · exact .inr ht
      · exact .inr (List.mem_of_mem_tail ht)

/-- What comes after some open parentheses closes the innermost of them, or puts others on top. In
the second case it is balanced if it puts none there. -/
theorem closes_or_stays (hts : ∀ t ∈ ts, IsParen t) :
    (∃ inner closing back, ts = inner ++ closing :: back ∧ closing.lexeme = .closeParen ∧
      Balanced inner) ∨
    ∃ opened, (∀ stack, ts.foldl meet stack = opened ++ stack) ∧ (opened = [] → Balanced ts) := by
  -- A closing parenthesis that is found takes its partner away, and what follows is looked at anew.
  induction hn : ts.length using Nat.strong_induction_on generalizing ts with
  | _ n ih =>
    cases ts with
    | nil => exact .inr ⟨[], fun _ ↦ rfl, fun _ ↦ .nil⟩
    | cons t ts =>
      obtain ⟨ht, hts⟩ := List.forall_mem_cons.1 hts
      rw [List.length_cons] at hn
      rcases ht with ht | ht
      · rcases ih ts.length (by omega) hts rfl with
          ⟨inner, closing, back, rfl, hc, hi⟩ | ⟨opened, hopened, -⟩
        · have hback : ∀ u ∈ back, IsParen u := fun u hu ↦ hts u (by simp [hu])
          have hpair : Balanced (t :: (inner ++ [closing])) := hi.enclosed ht hc
          have hsplit : t :: (inner ++ closing :: back) = t :: (inner ++ [closing]) ++ back := by
            simp
          rw [List.length_append, List.length_cons] at hn
          rw [hsplit]
          rcases ih back.length (by omega) hback rfl with
            ⟨inner', closing', back', rfl, hc', hi'⟩ | ⟨opened, hopened, hnil⟩
          · exact .inl ⟨_, closing', back', by simp, hc', hpair.append hi'⟩
          · refine .inr ⟨opened, fun stack ↦ ?_, fun h ↦ hpair.append (hnil h)⟩
            rw [List.foldl_append, hpair.foldl_meet, hopened]
        · refine .inr ⟨opened ++ [t], fun stack ↦ ?_, by simp⟩
          rw [List.foldl_cons, meet_of_openParen ht, hopened, List.append_assoc]
          rfl
      · exact .inl ⟨[], t, ts, rfl, ht, .nil⟩

/-- No parenthesis is open exactly if none in front is kept apart by a balanced sequence only. -/
theorem foldl_meet_eq_nil (hts : ∀ t ∈ ts, IsParen t) : ts.foldl meet [] = [] ↔
    ¬ ∃ front opening inner, ts = front ++ opening :: inner ∧ opening.lexeme = .openParen ∧
      Balanced inner := by
  constructor
  · rintro hnil ⟨front, opening, inner, rfl, ho, hi⟩
    rw [List.foldl_append, List.foldl_cons, meet_of_openParen ho, hi.foldl_meet] at hnil
    cases hnil
  · -- The last parenthesis closes the one that was open last, if there is one, and what is in front
    -- of that one is shorter.
    induction hn : ts.length using Nat.strong_induction_on generalizing ts with
    | _ n ih =>
      intro hnone
      rcases List.eq_nil_or_concat ts with rfl | ⟨init, last, rfl⟩
      · rfl
      rw [List.concat_eq_append] at hts hn hnone ⊢
      rw [List.length_append, List.length_singleton] at hn
      have hinit : ∀ t ∈ init, IsParen t := fun t ht ↦ hts t (List.mem_append_left _ ht)
      rcases hts last (by simp) with hlast | hlast
      · exact absurd ⟨init, last, [], rfl, hlast, .nil⟩ hnone
      rw [List.foldl_append, List.foldl_cons, List.foldl_nil, meet_of_closeParen hlast]
      by_cases hopen : ∃ front opening inner, init = front ++ opening :: inner ∧
          opening.lexeme = .openParen ∧ Balanced inner
      · obtain ⟨front, opening, inner, rfl, ho, hi⟩ := hopen
        rw [List.length_append, List.length_cons] at hn
        have hfront : front.foldl meet [] = [] := by
          refine ih front.length (by omega) (fun t ht ↦ hinit t (by simp [ht])) rfl ?_
          rintro ⟨front', opening', inner', rfl, ho', hi'⟩
          exact hnone ⟨front', opening', inner' ++ opening :: (inner ++ [last]), by simp, ho',
            hi'.append (hi.enclosed ho hlast)⟩
        rw [List.foldl_append, hfront, List.foldl_cons, meet_of_openParen ho, hi.foldl_meet,
          List.tail_cons]
      · rw [ih init.length (by omega) hinit rfl hopen]
        rfl

/-! ### What is left over -/

theorem unpaired_append (stack ts us : List Token) :
    unpaired stack (ts ++ us) = unpaired stack ts ++ unpaired (ts.foldl meet stack) us := by
  induction ts generalizing stack with
  | nil => rfl
  | cons t ts ih =>
    rw [List.cons_append, unpaired, unpaired, ih, List.append_assoc, List.foldl_cons]

theorem Balanced.unpaired_eq_nil (h : Balanced ts) (stack : List Token) :
    unpaired stack ts = [] := by
  induction h generalizing stack with
  | nil => rfl
  | pair ho hc hi _ ihi ihr =>
    rw [unpaired, if_neg (by simp [ho]), meet_of_openParen ho, unpaired_append, ihi, hi.foldl_meet,
      unpaired, if_neg (by simp), meet_of_closeParen hc, List.tail_cons, ihr]
    rfl

theorem mem_unpaired_iff : t ∈ unpaired stack ts ↔ t.lexeme = .closeParen ∧
    ∃ before after, ts = before ++ t :: after ∧ before.foldl meet stack = [] := by
  induction ts generalizing stack with
  | nil => simp [unpaired]
  | cons u ts ih =>
    rw [unpaired, List.mem_append, ih]
    constructor
    · rintro (h | ⟨ht, before, after, rfl, hnil⟩)
      · split at h
        · rename_i hu
          obtain rfl := List.mem_singleton.1 h
          exact ⟨hu.1, [], ts, rfl, hu.2⟩
        · cases h
      · exact ⟨ht, u :: before, after, rfl, hnil⟩
    · rintro ⟨ht, before, after, hsplit, hnil⟩
      cases before with
      | nil =>
        obtain ⟨rfl, rfl⟩ := List.cons.inj hsplit
        exact .inl (by rw [if_pos ⟨ht, hnil⟩]; exact List.mem_singleton_self _)
      | cons v before =>
        obtain ⟨rfl, rfl⟩ := List.cons.inj hsplit
        exact .inr ⟨ht, before, after, rfl, hnil⟩

theorem sublist_unpaired (stack ts : List Token) : (unpaired stack ts).Sublist ts := by
  induction ts generalizing stack with
  | nil => exact List.Sublist.refl _
  | cons t ts ih =>
    rw [unpaired]
    split
    · exact (ih _).cons_cons t
    · exact (ih _).cons t

/-- The closing parentheses that are left over are those without a partner. -/
theorem mem_unpaired_nil_iff (hts : ∀ t ∈ ts, IsParen t) :
    t ∈ unpaired [] ts ↔ IsUnmatched ts t := by
  rw [mem_unpaired_iff, IsUnmatched]
  refine and_congr_right fun _ ↦ exists_congr fun before ↦ exists_congr fun after ↦
    and_congr_right fun hsplit ↦ foldl_meet_eq_nil fun u hu ↦ hts u ?_
  rw [hsplit]
  exact List.mem_append_left _ hu

/-- The opening parentheses that are left over are those without a partner. -/
theorem mem_foldl_meet_nil_iff (hts : ∀ t ∈ ts, IsParen t) (hnodup : ts.Nodup) :
    t ∈ ts.foldl meet [] ↔ IsUnclosed ts t := by
  constructor
  · intro h
    have ht : t.lexeme = .openParen := (openParen_of_mem_foldl_meet h).resolve_right (by simp)
    have hmem : t ∈ ts := (mem_or_mem_of_mem_foldl_meet h).resolve_right (by simp)
    obtain ⟨before, after, rfl⟩ := List.append_of_mem hmem
    refine ⟨ht, before, after, rfl, ?_⟩
    -- If the parenthesis were closed, it would stand at a second place.
    rintro ⟨inner, closing, back, rfl, hc, hi⟩
    rw [List.foldl_append, List.foldl_cons, meet_of_openParen ht, List.foldl_append,
      hi.foldl_meet, List.foldl_cons, meet_of_closeParen hc, List.tail_cons] at h
    have hother : t ∈ before ++ (inner ++ closing :: back) := by
      rcases mem_or_mem_of_mem_foldl_meet h with hback | hbefore
      · simp [hback]
      · simp [(mem_or_mem_of_mem_foldl_meet hbefore).resolve_right (by simp)]
    exact (List.nodup_cons.1 (List.nodup_middle.1 hnodup)).1 hother
  · rintro ⟨ht, before, after, rfl, hnone⟩
    have hafter : ∀ u ∈ after, IsParen u := fun u hu ↦ hts u (by simp [hu])
    obtain ⟨opened, hopened, -⟩ := (closes_or_stays hafter).resolve_left hnone
    rw [List.foldl_append, List.foldl_cons, meet_of_openParen ht, hopened]
    simp

/-- Nothing is left over exactly if all parentheses have a partner. -/
theorem balanced_iff (hts : ∀ t ∈ ts, IsParen t) :
    Balanced ts ↔ unpaired [] ts = [] ∧ ts.foldl meet [] = [] := by
  constructor
  · exact fun h ↦ ⟨h.unpaired_eq_nil [], h.foldl_meet []⟩
  · rintro ⟨hclosing, hopening⟩
    rcases closes_or_stays hts with ⟨inner, closing, back, rfl, hc, hi⟩ | ⟨opened, hopened, hnil⟩
    · have hmem : closing ∈ unpaired [] (inner ++ closing :: back) :=
        mem_unpaired_iff.2 ⟨hc, inner, back, rfl, hi.foldl_meet []⟩
      rw [hclosing] at hmem
      cases hmem
    · refine hnil ?_
      rw [hopened, List.append_nil] at hopening
      exact hopening

/-! ### What is reported -/

/-- The quote that the last token leaves open is there if that token is a value without its closing
quote. -/
theorem isSome_openQuote?_iff : (openQuote? ts).isSome ↔
    ∃ t, ts.getLast? = some t ∧ t.lexeme.isUnclosed = true := by
  unfold openQuote?
  cases ts.getLast? with
  | none => simp
  | some t => obtain ⟨_ | _ | _ | _ | _ | _ | _ | _, start⟩ := t <;> simp [Lexeme.isUnclosed]

theorem stop_of_isParen (ht : IsParen t) : t.stop = t.start + 1 := by
  rw [Token.stop]
  rcases ht with ht | ht <;> rw [ht] <;> rfl

/-- The parentheses of a text start one after the other. -/
theorem pairwise_parens (catalog : Catalog) (text : String) :
    (parens (tokenize catalog text)).Pairwise fun t u ↦ t.start < u.start :=
  (Token.starts_tokenize catalog text).1.filter _

theorem nodup_parens (catalog : Catalog) (text : String) :
    (parens (tokenize catalog text)).Nodup :=
  (pairwise_parens catalog text).imp fun h he ↦ Nat.ne_of_lt h (congrArg Token.start he)

/-- The report on a closing parenthesis. -/
def unmatchedAt (i : Nat) : Highlight := ⟨i, i + 1, .error, .unmatchedClosing, none⟩

/-- The report on an opening parenthesis. -/
def unclosedAt (i : Nat) : Highlight := ⟨i, i + 1, .error, .unclosedOpening, none⟩

theorem highlights_eq (text : String) : (checkParentheses text).highlights =
    (unmatched text).closing.map unmatchedAt ++ (unmatched text).opening.map unclosedAt := by
  rw [checkParentheses, Report.highlights_append, Report.highlights_join, Report.highlights_join,
    List.flatMap_map, List.flatMap_map, List.map_eq_flatMap, List.map_eq_flatMap]
  rfl

theorem errors_eq (text : String) :
    (checkParentheses text).errors = (checkParentheses text).highlights.map Highlight.problem := by
  rw [highlights_eq, checkParentheses, Report.errors_append, Report.errors_join,
    Report.errors_join, List.flatMap_map, List.flatMap_map, List.map_append, List.map_map,
    List.map_map, List.map_eq_flatMap, List.map_eq_flatMap]
  rfl

/-- The parentheses that are left over by a text's tokens are those that the check reports. -/
theorem unmatched_tokenize (catalog : Catalog) (text : String) :
    let ps := parens (tokenize catalog text)
    unmatched text = ⟨(unpaired [] ps).map Token.start,
      ((ps.foldl meet []).map Token.start).reverse⟩ := by
  intro ps
  have hps : ∀ t ∈ ps, IsParen t := fun t ht ↦ (mem_parens.1 ht).2
  have hfilter : matchTokens [] ps = matchTokens [] (tokenize catalog text) := by
    refine matchTokens_filter (fun t ht ↦ ?_) [] _
    constructor <;> intro h <;> simp [h, Lexeme.kind] at ht
  rw [unmatched, ← unmatched_pass, pass_eq_passTokens catalog, ← matchTokens_eq hps, List.map_nil,
    hfilter]
  rfl

/-- The reports are about the parentheses without a partner. -/
theorem mem_highlights_iff (catalog : Catalog) (text : String) (h : Highlight) :
    let ps := parens (tokenize catalog text)
    h ∈ (checkParentheses text).highlights ↔ ∃ t ∈ ps,
      IsUnmatched ps t ∧ h = unmatchedAt t.start ∨ IsUnclosed ps t ∧ h = unclosedAt t.start := by
  intro ps
  have hps : ∀ t ∈ ps, IsParen t := fun t ht ↦ (mem_parens.1 ht).2
  have hnodup : ps.Nodup := nodup_parens catalog text
  rw [highlights_eq, unmatched_tokenize catalog text, List.mem_append]
  constructor
  · rintro (hm | hm)
    · obtain ⟨i, hi, rfl⟩ := List.mem_map.1 hm
      obtain ⟨t, ht, rfl⟩ := List.mem_map.1 hi
      exact ⟨t, (sublist_unpaired [] ps).subset ht, .inl ⟨(mem_unpaired_nil_iff hps).1 ht, rfl⟩⟩
    · obtain ⟨i, hi, rfl⟩ := List.mem_map.1 hm
      obtain ⟨t, ht, rfl⟩ := List.mem_map.1 (List.mem_reverse.1 hi)
      exact ⟨t, (mem_or_mem_of_mem_foldl_meet ht).resolve_right (by simp),
        .inr ⟨(mem_foldl_meet_nil_iff hps hnodup).1 ht, rfl⟩⟩
  · rintro ⟨t, -, ⟨ht, rfl⟩ | ⟨ht, rfl⟩⟩
    · have hmem := (mem_unpaired_nil_iff hps).2 ht
      exact .inl (List.mem_map_of_mem (List.mem_map_of_mem hmem))
    · have hmem := (mem_foldl_meet_nil_iff hps hnodup).2 ht
      exact .inr (List.mem_map_of_mem (List.mem_reverse.2 (List.mem_map_of_mem hmem)))

/-- Each report is about a place of its own. -/
theorem nodup_highlights (text : String) : (checkParentheses text).highlights.Nodup := by
  have hps := pairwise_parens ∅ text
  have hstart : ∀ {ts : List Token}, ts.Sublist (parens (tokenize ∅ text)) →
      (ts.map Token.start).Nodup := fun hsub ↦
    List.pairwise_map.2 ((hps.sublist hsub).imp Nat.ne_of_lt)
  have hopen : (((parens (tokenize ∅ text)).foldl meet []).map Token.start).Nodup := by
    have hsub := sublist_foldl_meet [] (parens (tokenize ∅ text))
    rw [List.append_nil] at hsub
    rw [← List.nodup_reverse, ← List.map_reverse]
    exact hstart (by simpa using hsub.reverse)
  rw [highlights_eq, unmatched_tokenize ∅ text]
  refine List.Nodup.append ?_ ?_ ?_
  · refine (hstart (sublist_unpaired [] _)).map fun i j h ↦ ?_
    exact congrArg Highlight.start h
  · refine (List.nodup_reverse.2 hopen).map fun i j h ↦ ?_
    exact congrArg Highlight.start h
  · intro h hclosing hopening
    obtain ⟨i, -, rfl⟩ := List.mem_map.1 hclosing
    obtain ⟨j, -, hij⟩ := List.mem_map.1 hopening
    have hproblem : Problem.unclosedOpening = .unmatchedClosing := congrArg Highlight.problem hij
    cases hproblem

/-- Nothing is reported exactly if all parentheses have a partner. -/
theorem errors_eq_nil_iff (catalog : Catalog) (text : String) :
    (checkParentheses text).errors = [] ↔ Balanced (parens (tokenize catalog text)) := by
  have hps : ∀ t ∈ parens (tokenize catalog text), IsParen t := fun t ht ↦ (mem_parens.1 ht).2
  rw [errors_eq, List.map_eq_nil_iff, highlights_eq, unmatched_tokenize catalog text,
    List.append_eq_nil_iff, List.map_eq_nil_iff, List.map_eq_nil_iff, List.map_eq_nil_iff,
    List.reverse_eq_nil_iff, List.map_eq_nil_iff, balanced_iff hps]

/-- And the verdict says the same as the list of errors. -/
theorem valid_iff_balanced (catalog : Catalog) (text : String) :
    (checkParentheses text).valid = true ↔ Balanced (parens (tokenize catalog text)) :=
  (records_checkParentheses text).valid_iff.trans (errors_eq_nil_iff catalog text)

/-- The check of the parentheses reads a text as the lexer does, beside any catalog: it takes for
structure exactly the tokens that are parentheses, and it ends inside of a quote exactly if the last
token is a value that is not closed. It reports each parenthesis without a partner once, at its own
byte, and nothing else. So its verdict is that the text is valid exactly if the parentheses are
balanced, and exactly then it has no errors. -/
theorem checkParentheses_tokenize (catalog : Catalog) (text : String) :
    let tokens := tokenize catalog text
    let ps := parens tokens
    let p := pass 0 none [] text.toList
    let report := checkParentheses text
    p.unmatched = unmatched text ∧ p.parens = ps.map Token.start ∧
      (p.quote.isSome ↔ ∃ t, tokens.getLast? = some t ∧ t.lexeme.isUnclosed = true) ∧
      (∀ t ∈ ps, t.stop = t.start + 1) ∧
      (∀ h, h ∈ report.highlights ↔ ∃ t ∈ ps,
        IsUnmatched ps t ∧ h = ⟨t.start, t.stop, .error, .unmatchedClosing, none⟩ ∨
        IsUnclosed ps t ∧ h = ⟨t.start, t.stop, .error, .unclosedOpening, none⟩) ∧
      report.highlights.Nodup ∧ report.errors = report.highlights.map Highlight.problem ∧
      (report.errors = [] ↔ Balanced ps) ∧ (report.valid = true ↔ Balanced ps) := by
  intro tokens ps p report
  have hps : ∀ t ∈ ps, IsParen t := fun t ht ↦ (mem_parens.1 ht).2
  have hpass : p = passTokens [] tokens := pass_eq_passTokens catalog 0 [] text.toList
  have hstop : ∀ t ∈ ps, t.stop = t.start + 1 := fun t ht ↦ stop_of_isParen (hps t ht)
  refine ⟨unmatched_pass .., ?_, ?_, hstop, fun h ↦ ?_, nodup_highlights text, errors_eq text,
    errors_eq_nil_iff catalog text, valid_iff_balanced catalog text⟩
  · rw [hpass]
    rfl
  · rw [hpass]
    exact isSome_openQuote?_iff
  · refine (mem_highlights_iff catalog text h).trans ?_
    refine exists_congr fun t ↦ and_congr_right fun ht ↦ ?_
    rw [hstop t ht, unmatchedAt, unclosedAt]

end FilterLang.Check.Parentheses
