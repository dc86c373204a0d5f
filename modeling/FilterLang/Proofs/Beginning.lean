import FilterLang.Proofs.RoundTrip

/-!
# Beginnings of expressions

While an expression is typed, what stands there so far can be the beginning of an expression, or it
can be beyond repair. `IsBeginning` says this of lexemes and speaks of texts: some text that has a
tree starts with them. `Begins n p` says it of phrases of the grammar.

The two meet in `isBeginning_of_begins`. A phrase is a list of lexemes, and to make a text of one
its lexemes must be kept apart: a blank after each will do (`significant_spaced`). That is why
`Begins` asks that what completes a phrase `IsSeparable`. What is there already needs no such
condition, since it was cut from a text.

A condition can break off at three places, and each of the three beginnings is completed with the
parts of a stock condition (`begins_modifiers`, `begins_field`, `begins_operator`).
-/

namespace FilterLang

open Grammar

/-! ### Lexemes with blanks after them -/

namespace Lexeme

variable {l : Lexeme} {ls : List Lexeme} {cs : List Char}

/-- Whether a lexeme is cut off whole where a blank follows it. -/
def IsSeparable (l : Lexeme) : Prop :=
  ∀ cs, significant ∅ (l.chars ++ ' ' :: cs) = l :: significant ∅ cs

theorem isSeparable_word {w : String} (hw : IsBareWord w) :
    (word w (.reserved w)).IsSeparable :=
  significant_word_blank hw

theorem isSeparable_quoted {q : Char} {v : String} (hq : IsQuote q) (hv : q ∉ v.toList) :
    (quoted q v).IsSeparable := by
  intro cs
  have h : (quoted q v).chars ++ ' ' :: cs = q :: (v.toList ++ q :: ' ' :: cs) := by simp [chars]
  rw [h, significant_quoted hq hv, significant_blank (by decide), String.ofList_toList]

theorem isSeparable_closeParen : closeParen.IsSeparable := by
  intro cs
  rw [chars, List.singleton_append, significant_closeParen, significant_blank (by decide)]

/-- What was cut from a text is cut in the same way where a blank follows it. Only a value that was
not closed would go on. -/
theorem isSeparable_of_mem (h : l ∈ significant ∅ cs) (hl : l.isUnclosed = false) :
    l.IsSeparable := by
  obtain ⟨hcut, hblank⟩ := List.mem_filter.1 h
  obtain ⟨ds, rest, hc⟩ := exists_cuts_of_mem_cut hcut
  intro cs
  have hcuts : Cuts ∅ (l.chars ++ ' ' :: cs) l (' ' :: cs) := by
    cases hc with
    | word hne hw _ =>
      rw [chars, String.toList_ofList]
      exact .word hne hw (isBareChar_head_blank cs)
    | @quoted q v _ hq hv =>
      have h : (quoted q (.ofList v)).chars ++ ' ' :: cs = q :: (v ++ q :: ' ' :: cs) := by
        simp [chars]
      rw [h]
      exact .quoted hq hv
    | unclosed => simp [isUnclosed] at hl
    | openParen => exact .openParen
    | closeParen => exact .closeParen
    | blank => simp [isBlank] at hblank
    | glyph k => exact .glyph k
    | stray hs =>
      obtain ⟨hq, hbare, ho, hcl, hb, -, -⟩ := hs
      exact .stray ⟨hq, hbare, ho, hcl, hb, by simp, by simp⟩
  have hkeep : l.isBlank = false := by simpa using hblank
  rw [hcuts.significant_eq, hkeep, if_neg (by simp), significant_blank (by decide)]

/-- Lexemes with a blank after each. -/
def spaced (ls : List Lexeme) : List Char := ls.flatMap fun l ↦ l.chars ++ [' ']

/-- Blanks keep lexemes apart. -/
theorem significant_spaced (h : ∀ l ∈ ls, l.IsSeparable) : significant ∅ (spaced ls) = ls := by
  induction ls with
  | nil => exact significant_nil
  | cons l ls ih =>
    have hsplit : spaced (l :: ls) = l.chars ++ ' ' :: spaced ls := by simp [spaced]
    rw [hsplit, h l List.mem_cons_self, ih fun m hm ↦ h m (List.mem_cons_of_mem _ hm)]

end Lexeme

/-! ### Beginnings of phrases -/

namespace Grammar

variable {n : Nat} {p : Phrase} {k : Connective} {l : Lexeme} {ls ms : List Lexeme} {us : List Tree}

/-- Whether lexemes can be completed to a phrase by others that can be written after them. -/
def Begins (n : Nat) (p : Phrase) (ls : List Lexeme) : Prop :=
  ∃ more us, Derives n p (ls ++ more) us ∧ ∀ l ∈ more, l.IsSeparable

/-- A whole phrase needs no completion. -/
theorem Derives.begins (h : Derives n p ls us) : Begins n p ls :=
  ⟨[], us, by rwa [List.append_nil], by simp⟩

theorem Begins.single (h : Begins n (.operand k) ls) : Begins n (.chain k) ls := by
  obtain ⟨more, us, hd, hmore⟩ := h
  exact ⟨more, _, .single hd, hmore⟩

theorem Begins.joined (h : Derives n (.operand k) ls us) (hl : l.connective? = some k)
    (h' : Begins n (.chain k) ms) : Begins n (.chain k) (ls ++ l :: ms) := by
  obtain ⟨more, vs, hd, hmore⟩ := h'
  exact ⟨more, _, by simpa using h.joined hl hd, hmore⟩

theorem Begins.parentheses (h : Begins n (.chain .or) ls) :
    Begins (n + 1) .term (.openParen :: ls) := by
  obtain ⟨more, us, hd, hmore⟩ := h
  refine ⟨more ++ [.closeParen], _, by simpa using hd.parentheses, fun l hl ↦ ?_⟩
  rcases List.mem_append.1 hl with hl | hl
  · exact hmore l hl
  · rw [List.mem_singleton.1 hl]
    exact Lexeme.isSeparable_closeParen

/-! ### Beginnings of conditions -/

/-- The field, the operator and the value that complete conditions. -/
def stockField : Lexeme := .word "a" (.reserved "a")

@[inherit_doc stockField]
def stockOperator : Lexeme :=
  .word Comparison.equals.keyword (.reserved Comparison.equals.keyword)

@[inherit_doc stockField]
def stockValue : Lexeme := .quoted '"' ""

theorem name?_stockField : stockField.name? = some "a" := by decide

theorem operator?_stockOperator : stockOperator.operator? = some ⟨.equals, false, false⟩ := by
  decide

theorem content?_stockValue : stockValue.content? = some "" := rfl

/-- The parts of the stock condition can be written after anything. -/
theorem isSeparable_stock : ∀ l ∈ [stockField, stockOperator, stockValue], l.IsSeparable := by
  intro l hl
  simp only [List.mem_cons, List.not_mem_nil, or_false] at hl
  rcases hl with rfl | rfl | rfl
  · exact Lexeme.isSeparable_word (by decide)
  · exact Lexeme.isSeparable_word (Comparison.isBareWord_keyword .equals)
  · exact Lexeme.isSeparable_quoted (.inl rfl) (by simp)

variable {before after : List Lexeme} {modifiers modifiers' : List Modifier} {field op : Lexeme}
  {name : String} {o : Operator}

/-- After the operator a condition lacks its value. -/
theorem begins_operator (hbefore : before.map Lexeme.modifier? = modifiers.map some)
    (hname : field.name? = some name)
    (hafter : after.map Lexeme.modifier? = modifiers'.map some) (hop : op.operator? = some o)
    (hnew : (modifiers ++ modifiers' ++ o.modifiers).Nodup) :
    Begins n .term (before ++ field :: (after ++ [op])) := by
  have h := IsCondition.intro hbefore hname hafter hop content?_stockValue hnew
  refine ⟨[stockValue], _, by simpa using Derives.condition h, fun l hl ↦ ?_⟩
  exact isSeparable_stock l (by simp [List.mem_singleton.1 hl])

/-- After the field, and among the modifiers after it, a condition lacks its operator. -/
theorem begins_field (hbefore : before.map Lexeme.modifier? = modifiers.map some)
    (hname : field.name? = some name)
    (hafter : after.map Lexeme.modifier? = modifiers'.map some)
    (hnew : (modifiers ++ modifiers').Nodup) : Begins n .term (before ++ field :: after) := by
  obtain ⟨more, us, hd, hmore⟩ := begins_operator (n := n) hbefore hname hafter
    operator?_stockOperator (by simpa [Operator.modifiers] using hnew)
  refine ⟨stockOperator :: more, us, by simpa using hd, List.forall_mem_cons.2 ⟨?_, hmore⟩⟩
  exact isSeparable_stock _ (by simp)

/-- Among its first modifiers a condition lacks its field. -/
theorem begins_modifiers (hbefore : before.map Lexeme.modifier? = modifiers.map some)
    (hnew : modifiers.Nodup) : Begins n .term before := by
  have hafter : ([] : List Lexeme).map Lexeme.modifier? = ([] : List Modifier).map some := rfl
  obtain ⟨more, us, hd, hmore⟩ := begins_field (n := n) hbefore name?_stockField hafter
    (by simpa using hnew)
  refine ⟨stockField :: more, us, by simpa using hd, List.forall_mem_cons.2 ⟨?_, hmore⟩⟩
  exact isSeparable_stock _ (by simp)

/-- Nothing is the beginning of a term. -/
theorem begins_nil : Begins n .term [] := by
  have hnil : ([] : List Lexeme).map Lexeme.modifier? = ([] : List Modifier).map some := rfl
  exact begins_modifiers hnil .nil

end Grammar

/-! ### Beginnings of texts -/

variable {ls : List Lexeme} {cs : List Char}

/-- Whether some text that has a tree starts with the given lexemes, white space left out. -/
def IsBeginning (ls : List Lexeme) : Prop :=
  ∃ text t, Tree.parse text = .ok t ∧
    ls <+: (Token.significant (tokenize ∅ text)).map Token.lexeme

/-- The beginning of an expression that was cut from a text is the beginning of a text with a tree.
-/
theorem isBeginning_of_begins (h : Begins maxNesting (.chain .or) ls)
    (hcs : ∀ l ∈ ls, l ∈ Lexeme.significant ∅ cs) : IsBeginning ls := by
  obtain ⟨more, us, hd, hmore⟩ := h
  have hall : ∀ l ∈ ls ++ more, l.IsSeparable := by
    intro l hl
    rcases List.mem_append.1 hl with hl | hl
    · have hclosed := hd.isUnclosed_eq_false (List.mem_append_left more hl)
      exact Lexeme.isSeparable_of_mem (hcs l hl) hclosed
    · exact hmore l hl
  have hcut := Lexeme.significant_spaced hall
  refine ⟨.ofList (Lexeme.spaced (ls ++ more)), .ofChain .or us, ?_, ?_⟩
  · rw [Tree.parse_eq_ok_iff, String.toList_ofList, hcut]
    exact ⟨us, hd, rfl⟩
  · rw [Token.map_lexeme_significant, String.toList_ofList, hcut]
    exact List.prefix_append ls more

/-- What starts no expression of the grammar starts no text with a tree. -/
theorem not_isBeginning (h : ∀ more t, ¬ IsExpression maxNesting (ls ++ more) t) :
    ¬ IsBeginning ls := by
  rintro ⟨text, t, hparse, hpre⟩
  obtain ⟨more, hmore⟩ := hpre
  rw [Tree.parse_eq_ok_iff, ← Token.map_lexeme_significant, ← hmore] at hparse
  exact h more t hparse

end FilterLang
