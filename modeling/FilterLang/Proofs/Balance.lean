import FilterLang.Check.Parentheses
import FilterLang.Proofs.Cutting
import FilterLang.Proofs.Grammar

/-!
# The balance of parentheses

Parentheses are matched on the characters of a text, without the lexer: the check remembers only
which quote is open, where the lexer cuts off whole values. `matchTokens` does on tokens what the
check does on characters. `pass` is the check with a record of the parentheses that it takes for
structure and of the quote that it ends in, and `pass_eq_passTokens` says that characters and tokens
agree on every text in all three respects, positions included.

From the side of the grammar, a phrase leaves the open parentheses as they are
(`matchTokens_of_derives`). So the check finds nothing in an expression.
-/

namespace FilterLang.Check.Parentheses

/-! ### Matching tokens -/

/-- Matches the parentheses among tokens. `stack` holds the places of the open ones, the innermost
first. -/
def matchTokens (stack : List Nat) : List Token → Unmatched
  | [] => ⟨[], stack.reverse⟩
  | ⟨.openParen, start⟩ :: ts => matchTokens (start :: stack) ts
  | ⟨.closeParen, start⟩ :: ts =>
    match stack with
    | [] =>
      let u := matchTokens [] ts
      ⟨start :: u.closing, u.opening⟩
    | _ :: stack => matchTokens stack ts
  | _ :: ts => matchTokens stack ts

variable {stack : List Nat} {t : Token} {ts : List Token}

theorem matchTokens_cons (ht : t.lexeme ≠ .openParen ∧ t.lexeme ≠ .closeParen) :
    matchTokens stack (t :: ts) = matchTokens stack ts := by
  obtain ⟨_ | _ | _ | _ | _ | _ | _ | _, start⟩ := t <;> first | rfl | simp at ht

theorem matchTokens_openParen (ht : t.lexeme = .openParen) :
    matchTokens stack (t :: ts) = matchTokens (t.start :: stack) ts := by
  obtain ⟨l, start⟩ := t
  obtain rfl : l = .openParen := ht
  rfl

/-- A closing parenthesis takes away the innermost open one. -/
theorem matchTokens_closeParen {i : Nat} (ht : t.lexeme = .closeParen) :
    matchTokens (i :: stack) (t :: ts) = matchTokens stack ts := by
  obtain ⟨l, start⟩ := t
  obtain rfl : l = .closeParen := ht
  rfl

/-- What is no parenthesis has no part in the balance. -/
theorem matchTokens_filter {p : Token → Bool}
    (hp : ∀ t, p t = false → t.lexeme ≠ .openParen ∧ t.lexeme ≠ .closeParen) (stack : List Nat)
    (ts : List Token) : matchTokens stack (ts.filter p) = matchTokens stack ts := by
  induction ts generalizing stack with
  | nil => rfl
  | cons t ts ih =>
    rw [List.filter_cons]
    split
    · obtain ⟨l, start⟩ := t
      cases l with
      | closeParen => cases stack <;> simp [matchTokens, ih]
      | _ => simp [matchTokens, ih]
    · rename_i ht
      rw [ih, matchTokens_cons (hp t (by simpa using ht))]

/-- White space has no part in the balance. -/
theorem matchTokens_significant (stack : List Nat) (ts : List Token) :
    matchTokens stack (Token.significant ts) = matchTokens stack ts := by
  refine matchTokens_filter (fun t ht ↦ ?_) stack ts
  constructor <;> intro h <;> simp [h, Lexeme.isBlank] at ht

/-! ### The pass over the characters -/

/-- What the check finds, and what it looks at on its way. -/
structure Pass where
  unmatched : Unmatched
  /-- The places of the parentheses that were matched, those inside of quotes left out. -/
  parens : List Nat
  /-- The quote that is open at the end. -/
  quote : Option Char

/-- A pass that meets one more parenthesis in front. -/
def Pass.meet (p : Pass) (i : Nat) : Pass := { p with parens := i :: p.parens }

/-- A pass that meets a closing parenthesis in front while none is open. -/
def Pass.meetUnmatched (p : Pass) (i : Nat) : Pass :=
  { p.meet i with unmatched := ⟨i :: p.unmatched.closing, p.unmatched.opening⟩ }

/-- The check of the parentheses with a record of what it takes for structure. -/
def pass (offset : Nat) (quote : Option Char) (stack : List Nat) : List Char → Pass
  | [] => ⟨⟨[], stack.reverse⟩, [], quote⟩
  | c :: cs =>
    let next := offset + c.utf8Size
    match quote with
    | some q => pass next (if c == q then none else quote) stack cs
    | none =>
      if c == '"' || c == '\'' then pass next (some c) stack cs
      else if c == '(' then (pass next none (offset :: stack) cs).meet offset
      else if c == ')' then
        match stack with
        | [] => (pass next none [] cs).meetUnmatched offset
        | _ :: stack => (pass next none stack cs).meet offset
      else pass next none stack cs

/-- The record changes nothing about what is found. -/
theorem unmatched_pass (offset : Nat) (quote : Option Char) (stack : List Nat) (cs : List Char) :
    (pass offset quote stack cs).unmatched = scan offset quote stack cs := by
  induction cs generalizing offset quote stack with
  | nil => rfl
  | cons c cs ih =>
    unfold pass scan
    cases quote with
    | some q => exact ih ..
    | none =>
      dsimp only
      split
      · exact ih ..
      · split
        · exact ih ..
        · split
          · cases stack with
            | nil =>
              rw [← ih]
              rfl
            | cons i stack => exact ih ..
          · exact ih ..

/-- A character that is neither a quote nor a parenthesis. -/
def IsPlain (c : Char) : Prop := ¬ IsQuote c ∧ c ≠ '(' ∧ c ≠ ')'

variable {c q : Char} {cs rest : List Char} {offset : Nat}

theorem isPlain_of_isBareChar (h : isBareChar c = true) : IsPlain c := by
  refine ⟨fun hq ↦ ?_, ?_, ?_⟩
  · simp [isBareChar_of_isQuote hq] at h
  · rintro rfl
    exact absurd h (by decide)
  · rintro rfl
    exact absurd h (by decide)

theorem isPlain_of_isBlank (h : Text.isBlank c = true) : IsPlain c := by
  refine ⟨?_, ?_, ?_⟩
  · rintro (rfl | rfl) <;> exact absurd h (by decide)
  · rintro rfl
    exact absurd h (by decide)
  · rintro rfl
    exact absurd h (by decide)

/-- Plain characters are passed over outside of quotes. -/
theorem pass_plain (h : ∀ c ∈ cs, IsPlain c) :
    pass offset none stack (cs ++ rest) = pass (offset + Text.byteLength cs) none stack rest := by
  induction cs generalizing offset with
  | nil => rfl
  | cons c cs ih =>
    obtain ⟨hq, ho, hc⟩ := h c List.mem_cons_self
    rw [IsQuote, not_or] at hq
    have hstep : pass offset none stack (c :: (cs ++ rest)) =
        pass (offset + c.utf8Size) none stack (cs ++ rest) := by
      simp [pass, hq, ho, hc]
    rw [List.cons_append, hstep, ih fun d hd ↦ h d (List.mem_cons_of_mem _ hd),
      Text.byteLength_cons, Nat.add_assoc]

/-- What does not hold the quote is passed over inside of quotes. -/
theorem pass_inside (h : q ∉ cs) : pass offset (some q) stack (cs ++ rest) =
    pass (offset + Text.byteLength cs) (some q) stack rest := by
  induction cs generalizing offset with
  | nil => rfl
  | cons c cs ih =>
    have hne : (c == q) = false := by
      rw [beq_eq_false_iff_ne]
      exact fun hc ↦ h (hc ▸ List.mem_cons_self)
    rw [List.cons_append, pass]
    simp only [hne, Bool.false_eq_true, ↓reduceIte]
    rw [ih fun hq ↦ h (List.mem_cons_of_mem _ hq), Text.byteLength_cons, Nat.add_assoc]

/-- A quote opens a value outside of quotes. -/
theorem pass_quote (hq : IsQuote q) : pass offset none stack (q :: cs) =
    pass (offset + q.utf8Size) (some q) stack cs := by
  rcases hq with rfl | rfl <;> simp [pass]

theorem pass_closing_quote : pass offset (some q) stack (q :: cs) =
    pass (offset + q.utf8Size) none stack cs := by
  simp [pass]

/-! ### Characters and tokens -/

/-- The tokens that are parentheses. -/
def parens (ts : List Token) : List Token := ts.filter (·.lexeme.kind == .parenthesis)

/-- The quote that the last token leaves open. -/
def openQuote? (ts : List Token) : Option Char :=
  match ts.getLast? with
  | some ⟨.unclosed q _, _⟩ => some q
  | _ => none

/-- What a pass over the characters of tokens records. -/
def passTokens (stack : List Nat) (ts : List Token) : Pass :=
  ⟨matchTokens stack ts, (parens ts).map Token.start, openQuote? ts⟩

theorem openQuote?_cons (ht : t.lexeme.isUnclosed = false) :
    openQuote? (t :: ts) = openQuote? ts := by
  cases ts with
  | nil =>
    obtain ⟨l, start⟩ := t
    cases l with
    | unclosed => cases ht
    | _ => rfl
  | cons u ts => rw [openQuote?, openQuote?, List.getLast?_cons_cons]

/-- What is neither a parenthesis nor left open leaves no trace. -/
theorem passTokens_cons (ht : t.lexeme ≠ .openParen ∧ t.lexeme ≠ .closeParen)
    (hu : t.lexeme.isUnclosed = false) : passTokens stack (t :: ts) = passTokens stack ts := by
  have hkind : (t.lexeme.kind == .parenthesis) = false := by
    obtain ⟨⟨_, _ | _ | _ | _ | _⟩ | _ | _ | _ | _ | _ | _ | _, start⟩ := t <;>
      first | rfl | simp at ht
  rw [passTokens, matchTokens_cons ht, parens, List.filter_cons, hkind, openQuote?_cons hu]
  rfl

theorem passTokens_openParen (i : Nat) :
    passTokens stack (⟨.openParen, i⟩ :: ts) = (passTokens (i :: stack) ts).meet i := by
  rw [passTokens, openQuote?_cons rfl]
  rfl

theorem passTokens_closeParen_nil (i : Nat) :
    passTokens [] (⟨.closeParen, i⟩ :: ts) = (passTokens [] ts).meetUnmatched i := by
  rw [passTokens, openQuote?_cons rfl]
  rfl

theorem passTokens_closeParen_cons (i j : Nat) :
    passTokens (j :: stack) (⟨.closeParen, i⟩ :: ts) = (passTokens stack ts).meet i := by
  rw [passTokens, openQuote?_cons rfl]
  rfl

/-- The check of the parentheses finds in the characters of a text what there is among its tokens,
beside any catalog. -/
theorem pass_eq_passTokens (catalog : Catalog) (offset : Nat) (stack : List Nat) (cs : List Char) :
    pass offset none stack cs = passTokens stack (Token.place offset (Lexeme.cut catalog cs)) := by
  -- Between lexemes no quote is open, so the two sides meet again after each of them.
  induction cs using Lexeme.cuts_induction catalog generalizing offset stack with
  | nil => simp [pass, Lexeme.cut, Token.place, passTokens, matchTokens, parens, openQuote?]
  | @cons cs l rest h ih =>
    rw [h.cut_eq, Token.place]
    cases h with
    | @word w _ hne hw hrest =>
      rw [pass_plain fun c hc ↦ isPlain_of_isBareChar (hw c hc), ih, passTokens_cons (by simp) rfl]
      simp [Lexeme.chars]
    | @quoted q v _ hq hv =>
      rw [pass_quote hq, pass_inside hv, pass_closing_quote, ih, passTokens_cons (by simp) rfl]
      simp [Lexeme.chars, Nat.add_assoc]
    | @unclosed q v hq hv =>
      rw [pass_quote hq, ← List.append_nil v, pass_inside hv]
      simp [pass, Lexeme.cut, Token.place, passTokens, matchTokens, parens, openQuote?, Lexeme.kind]
    | openParen =>
      rw [passTokens_openParen, ← ih]
      simp [pass, Lexeme.chars]
    | closeParen =>
      cases stack with
      | nil =>
        rw [passTokens_closeParen_nil, ← ih]
        simp [pass, Lexeme.chars]
      | cons j stack =>
        rw [passTokens_closeParen_cons, ← ih]
        simp [pass, Lexeme.chars]
    | @blank b _ hne hb hrest =>
      rw [pass_plain fun c hc ↦ isPlain_of_isBlank (hb c hc), ih, passTokens_cons (by simp) rfl]
      simp [Lexeme.chars]
    | glyph k =>
      have hk : ∀ c ∈ k.glyph.toList, IsPlain c := by
        cases k <;> simp [Lexeme.toList_glyph, IsPlain, IsQuote]
      rw [pass_plain hk, ih, passTokens_cons (by simp) rfl]
      simp [Lexeme.chars]
    | @stray c _ h =>
      obtain ⟨hq, -, ho, hc, -⟩ := h
      have hplain : ∀ d ∈ [c], IsPlain d := by simpa using ⟨hq, ho, hc⟩
      rw [← List.singleton_append, pass_plain hplain, ih, passTokens_cons (by simp) rfl]
      simp [Lexeme.chars]

theorem unmatched_eq (catalog : Catalog) (text : String) :
    unmatched text = matchTokens [] (Token.significant (tokenize catalog text)) := by
  rw [unmatched, ← unmatched_pass, pass_eq_passTokens catalog, matchTokens_significant, tokenize]
  rfl

end Parentheses

/-! ### Parentheses of an expression -/

open Grammar

variable {n : Nat} {p : Phrase} {toks : List Token} {us : List Tree}

/-- A phrase leaves the open parentheses as they are, whatever follows it. -/
theorem matchTokens_of_derives (h : Derives n p (toks.map Token.lexeme) us) (stack : List Nat)
    (rest : List Token) :
    Parentheses.matchTokens stack (toks ++ rest) = Parentheses.matchTokens stack rest := by
  revert stack rest
  refine h.token_induction (motive := fun _ toks _ ↦ ∀ stack rest,
    Parentheses.matchTokens stack (toks ++ rest) = Parentheses.matchTokens stack rest)
    ?condition ?parentheses ?single ?joined
  case condition =>
    intro toks c hc stack rest
    have hparts : ∀ t ∈ toks, IsPart t.lexeme := fun t ht ↦ hc.isPart _ (List.mem_map_of_mem ht)
    clear hc
    induction toks with
    | nil => rfl
    | cons t toks ih =>
      rw [List.cons_append, Parentheses.matchTokens_cons (hparts t List.mem_cons_self).ne_paren,
        ih fun u hu ↦ hparts u (List.mem_cons_of_mem _ hu)]
  case parentheses =>
    intro opening toks closing us ho hc ih stack rest
    rw [List.cons_append, Parentheses.matchTokens_openParen ho, List.append_assoc, ih,
      List.singleton_append, Parentheses.matchTokens_closeParen hc]
  case single => exact fun k toks us ih ↦ ih
  case joined =>
    intro k toks t toks' us us' ih ht ih' stack rest
    rw [List.append_assoc, ih, List.cons_append,
      Parentheses.matchTokens_cons (ne_paren_of_connective? ht), ih']

/-- The parentheses of an expression match each other. -/
theorem errors_checkParentheses {catalog : Catalog} {text : String}
    (h : Derives n p (Lexeme.significant catalog text.toList) us) :
    (checkParentheses text).errors = [] := by
  rw [← Token.map_lexeme_significant] at h
  have hmatch := matchTokens_of_derives h [] []
  rw [List.append_nil, ← Parentheses.unmatched_eq] at hmatch
  rw [checkParentheses, hmatch]
  rfl

end FilterLang.Check
