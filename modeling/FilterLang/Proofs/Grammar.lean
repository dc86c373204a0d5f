import FilterLang.Expression
import FilterLang.Proofs.Groups
import Mathlib.Data.List.Chain

/-!
# The grammar of expressions

The grammar says which lists of lexemes are expressions and what trees they have, without saying how
they are read:

```
expression := and_chain (OR and_chain)*
and_chain  := term (AND term)*
term       := '(' expression ')' | condition
condition  := modifier* field modifier* operator value
```

No modifier may stand twice in a condition, where the modifiers folded into the operator count too.

`Derives n p ls ts` says that the lexemes `ls` make up a phrase `p` with at most `n` parentheses
inside each other, and that `ts` are the trees of its operands. The attribute is a list because a
chain is one flat group of its operands; a term always has one tree. Nothing is said of positions,
so the grammar is about lexemes and not about tokens.

White space is no part of the grammar: it is about significant lexemes.
-/

namespace FilterLang

/-! ### Words with a part in a condition -/

/-- The field that a lexeme can name: a word without a role, or a field of the catalog. -/
def Lexeme.name? : Lexeme → Option String
  | word w .field => some w
  | word w .unknown => some w
  | _ => none

namespace Lexeme

variable {l : Lexeme} {w : String}

/-- Fields are named by words. -/
theorem name?_eq_some_iff :
    l.name? = some w ↔ ∃ r, l = .word w r ∧ (r = .field ∨ r = .unknown) := by
  rcases l with ⟨v, _ | _ | _ | _ | _⟩ | _ | _ | _ | _ | _ | _ | _ <;> simp [name?, eq_comm]

theorem operator?_eq_some_iff {op : Operator} :
    l.operator? = some op ↔ ∃ w, l = .word w (.operator op) := by
  rcases l with ⟨w, _ | _ | _ | _ | _⟩ | _ | _ | _ | _ | _ | _ | _ <;> simp [operator?]

theorem modifier?_eq_some_iff {m : Modifier} :
    l.modifier? = some m ↔ ∃ w, l = .word w (.modifier m) := by
  rcases l with ⟨w, _ | _ | _ | _ | _⟩ | _ | _ | _ | _ | _ | _ | _ <;> simp [modifier?]

theorem content?_eq_some_iff : l.content? = some w ↔ ∃ q, l = .quoted q w := by
  cases l <;> simp [content?]

end Lexeme

/-- The modifiers folded into an operator. -/
def Operator.modifiers (o : Operator) : List Modifier :=
  (if o.negate then [.not] else []) ++ (if o.caseSensitive then [.caseSensitive] else [])

/-- A comparison with the modifiers of a list. -/
def Comparison.qualified (c : Comparison) (ms : List Modifier) : Operator :=
  ⟨c, decide (.not ∈ ms), decide (.caseSensitive ∈ ms)⟩

namespace Grammar

/-! ### Productions -/

/-- The lexemes of a condition: modifiers around a field, then an operator and a quoted value. The
condition has the modifiers of all three places, none of which may repeat another. -/
inductive IsCondition : List Lexeme → Condition → Prop
  | intro {before after : List Lexeme} {ms ns : List Modifier} {name operator value : Lexeme}
      {field content : String} {op : Operator}
      (hbefore : before.map Lexeme.modifier? = ms.map some)
      (hname : name.name? = some field)
      (hafter : after.map Lexeme.modifier? = ns.map some)
      (hop : operator.operator? = some op)
      (hvalue : value.content? = some content)
      (hms : (ms ++ ns ++ op.modifiers).Nodup) :
      IsCondition (before ++ name :: (after ++ [operator, value]))
        ⟨field, op.comparison.qualified (ms ++ ns ++ op.modifiers), content⟩

/-- The phrases that expressions are made of. A chain of `OR` is an expression. -/
inductive Phrase where
  | term
  | chain (k : Connective)
  deriving DecidableEq

/-- What a connective joins: an operand of `OR` is a chain of `AND`, and an operand of `AND` is a
term. -/
def Phrase.operand : Connective → Phrase
  | .or => chain .and
  | .and => term

/-- The connectives that a phrase can go on with. -/
def Phrase.joins : Phrase → List Connective
  | term => []
  | chain .and => [.and]
  | chain .or => [.and, .or]

/-- The connective of a phrase's group. A term has a single tree, which forms no group. -/
def Phrase.joint : Phrase → Connective
  | term => .and
  | chain k => k

/-- The derivations of the grammar. The operands of a chain are chains of `AND` or terms, and either
way the tree of an operand is that of the chain of its own operands. -/
inductive Derives : Nat → Phrase → List Lexeme → List Tree → Prop
  | condition {n : Nat} {ls : List Lexeme} {c : Condition} (h : IsCondition ls c) :
      Derives n .term ls [.condition c]
  | parentheses {n : Nat} {ls : List Lexeme} {ts : List Tree} (h : Derives n (.chain .or) ls ts) :
      Derives (n + 1) .term (.openParen :: (ls ++ [.closeParen])) [.ofChain .or ts]
  | single {n : Nat} {k : Connective} {ls : List Lexeme} {ts : List Tree}
      (h : Derives n (.operand k) ls ts) : Derives n (.chain k) ls [.ofChain .and ts]
  | joined {n : Nat} {k : Connective} {l : Lexeme} {ls ms : List Lexeme} {ts us : List Tree}
      (h : Derives n (.operand k) ls ts) (hl : l.connective? = some k)
      (h' : Derives n (.chain k) ms us) :
      Derives n (.chain k) (ls ++ l :: ms) (.ofChain .and ts :: us)

/-- Whether lexemes are an expression with a given tree and at most `n` parentheses inside each
other. -/
def IsExpression (n : Nat) (ls : List Lexeme) (t : Tree) : Prop :=
  ∃ ts, Derives n (.chain .or) ls ts ∧ t = .ofChain .or ts

/-- Whether lexemes are the operands of a chain after the first, each with its connective in front.
-/
def Further (n : Nat) (k : Connective) : List Lexeme → List Tree → Prop
  | [], us => us = []
  | l :: ls, us => l.connective? = some k ∧ Derives n (.chain k) ls us

/-! ### Lexemes of a condition -/

/-- Whether a lexeme can be a part of a condition. -/
def IsPart (l : Lexeme) : Prop :=
  l.modifier?.isSome ∨ l.name?.isSome ∨ l.operator?.isSome ∨ l.content?.isSome

variable {n m : Nat} {p : Phrase} {k : Connective} {l : Lexeme} {ls rest : List Lexeme}
  {c : Condition} {t : Tree} {ts : List Tree}

theorem IsPart.connective?_eq (h : IsPart l) : l.connective? = none := by
  rcases l with ⟨w, _ | _ | _ | _ | _⟩ | _ | _ | _ | _ | _ | _ | _ <;>
    simp_all [IsPart, Lexeme.modifier?, Lexeme.name?, Lexeme.operator?, Lexeme.content?,
      Lexeme.connective?]

theorem IsPart.ne_paren (h : IsPart l) : l ≠ .openParen ∧ l ≠ .closeParen := by
  constructor <;> rintro rfl <;>
    simp [IsPart, Lexeme.modifier?, Lexeme.name?, Lexeme.operator?, Lexeme.content?] at h

theorem modifier?_eq_none_of_name? {w : String} (h : l.name? = some w) :
    l.modifier? = none := by
  obtain ⟨r, rfl, rfl | rfl⟩ := Lexeme.name?_eq_some_iff.1 h <;> rfl

theorem operator?_eq_none_of_name? {w : String} (h : l.name? = some w) :
    l.operator? = none := by
  obtain ⟨r, rfl, rfl | rfl⟩ := Lexeme.name?_eq_some_iff.1 h <;> rfl

theorem modifier?_eq_none_of_operator? {op : Operator} (h : l.operator? = some op) :
    l.modifier? = none := by
  obtain ⟨w, rfl⟩ := Lexeme.operator?_eq_some_iff.1 h
  rfl

/-- A lexeme from a list of modifiers. -/
theorem isSome_modifier?_of_mem {before : List Lexeme} {ms : List Modifier}
    (h : before.map Lexeme.modifier? = ms.map some) (hl : l ∈ before) : l.modifier?.isSome := by
  have hmem : l.modifier? ∈ ms.map some := h ▸ List.mem_map_of_mem hl
  obtain ⟨m, -, hm⟩ := List.mem_map.1 hmem
  simp [← hm]

theorem IsCondition.isPart (h : IsCondition ls c) : ∀ l ∈ ls, IsPart l := by
  obtain ⟨hbefore, hname, hafter, hop, hvalue, -⟩ := h
  intro l hl
  simp only [List.mem_append, List.mem_cons, List.not_mem_nil, or_false] at hl
  rcases hl with hl | rfl | hl | rfl | rfl
  · exact .inl (isSome_modifier?_of_mem hbefore hl)
  · exact .inr (.inl (by simp [hname]))
  · exact .inl (isSome_modifier?_of_mem hafter hl)
  · exact .inr (.inr (.inl (by simp [hop])))
  · exact .inr (.inr (.inr (by simp [hvalue])))

theorem IsCondition.ne_nil (h : IsCondition ls c) : ls ≠ [] := by
  obtain ⟨-, -, -, -, -, -⟩ := h
  simp

/-- The field and the value of a condition are those of two of its lexemes. -/
theorem IsCondition.sources (h : IsCondition ls c) :
    (∃ l ∈ ls, l.name? = some c.field) ∧ ∃ l ∈ ls, l.content? = some c.value := by
  obtain ⟨-, hname, -, -, hvalue, -⟩ := h
  exact ⟨⟨_, by simp, hname⟩, ⟨_, by simp, hvalue⟩⟩

/-! ### Lexemes of a phrase -/

theorem Derives.ne_nil (h : Derives n p ls ts) : ts ≠ [] := by
  cases h <;> simp

/-- A chain is an operand and further operands. -/
theorem derives_chain_iff {us : List Tree} : Derives n (.chain k) ls us ↔
    ∃ front tail ts vs, ls = front ++ tail ∧ Derives n (.operand k) front ts ∧
      Further n k tail vs ∧ us = .ofChain .and ts :: vs := by
  constructor
  · intro h
    cases h with
    | single h => exact ⟨_, [], _, [], by simp, h, rfl, rfl⟩
    | joined h hl h' => exact ⟨_, _, _, _, rfl, h, ⟨hl, h'⟩, rfl⟩
  · rintro ⟨front, tail, ts, vs, rfl, h, hf, rfl⟩
    cases tail with
    | nil =>
      obtain rfl : vs = [] := hf
      rw [List.append_nil]
      exact .single h
    | cons l tail => exact .joined h hf.1 hf.2

/-- A term is a condition or an expression in parentheses. -/
theorem derives_term_iff {us : List Tree} : Derives n .term ls us ↔
    (∃ c, IsCondition ls c ∧ us = [.condition c]) ∨
      ∃ m inner ts, n = m + 1 ∧ ls = .openParen :: (inner ++ [.closeParen]) ∧
        Derives m (.chain .or) inner ts ∧ us = [.ofChain .or ts] := by
  constructor
  · intro h
    cases h with
    | condition h => exact .inl ⟨_, h, rfl⟩
    | parentheses h => exact .inr ⟨_, _, _, rfl, rfl, h, rfl⟩
  · rintro (⟨c, h, rfl⟩ | ⟨m, inner, ts, rfl, rfl, h, rfl⟩)
    · exact .condition h
    · exact .parentheses h

/-- A phrase may be read where more parentheses are allowed. -/
theorem Derives.mono (h : Derives n p ls ts) (hm : n ≤ m) : Derives m p ls ts := by
  induction h generalizing m with
  | condition h => exact .condition h
  | parentheses _ ih =>
    obtain ⟨m, rfl⟩ : ∃ j, m = j + 1 := ⟨m - 1, by omega⟩
    exact .parentheses (ih (by omega))
  | single _ ih => exact .single (ih hm)
  | joined _ hl _ ih ih' => exact .joined (ih hm) hl (ih' hm)

/-- A phrase starts with a part of a condition or with an opening parenthesis. -/
theorem Derives.head (h : Derives n p ls ts) :
    ∃ l ms, ls = l :: ms ∧ (IsPart l ∨ l = .openParen) := by
  induction h with
  | condition h =>
    obtain ⟨l, ms, rfl⟩ := List.exists_cons_of_ne_nil h.ne_nil
    exact ⟨l, ms, rfl, .inl (h.isPart l List.mem_cons_self)⟩
  | parentheses => exact ⟨_, _, rfl, .inr rfl⟩
  | single _ ih => exact ih
  | joined _ _ _ ih _ =>
    obtain ⟨l, ms, rfl, hl⟩ := ih
    exact ⟨l, _, rfl, hl⟩

/-- Every lexeme of a phrase is a part of a condition, a parenthesis or a connective. -/
theorem Derives.of_mem (h : Derives n p ls ts) :
    ∀ l ∈ ls, IsPart l ∨ l = .openParen ∨ l = .closeParen ∨ l.connective?.isSome := by
  induction h with
  | condition h => exact fun l hl ↦ .inl (h.isPart l hl)
  | parentheses _ ih =>
    intro l hl
    simp only [List.mem_cons, List.mem_append, List.not_mem_nil, or_false] at hl
    rcases hl with rfl | hl | rfl
    · exact .inr (.inl rfl)
    · exact ih l hl
    · exact .inr (.inr (.inl rfl))
  | single _ ih => exact ih
  | joined _ hc _ ih ih' =>
    intro l hl
    simp only [List.mem_append, List.mem_cons] at hl
    rcases hl with hl | rfl | hl
    · exact ih l hl
    · exact .inr (.inr (.inr (by simp [hc])))
    · exact ih' l hl

/-- A value that is not closed has no part in the grammar. -/
theorem Derives.isUnclosed_eq_false (h : Derives n p ls ts) (hl : l ∈ ls) :
    l.isUnclosed = false := by
  cases l with
  | unclosed q v =>
    have := h.of_mem _ hl
    simp [IsPart, Lexeme.modifier?, Lexeme.name?, Lexeme.operator?, Lexeme.content?,
      Lexeme.connective?] at this
  | _ => rfl

/-- The fields and the values of the conditions of a phrase are those of its lexemes. -/
theorem Derives.sources (h : Derives n p ls ts) : ∀ c ∈ Tree.leavesAll ts,
    (∃ l ∈ ls, l.name? = some c.field) ∧ ∃ l ∈ ls, l.content? = some c.value := by
  induction h with
  | condition h =>
    intro c hc
    simp only [Tree.leavesAll, Tree.leaves, List.append_nil, List.mem_singleton] at hc
    exact hc ▸ h.sources
  | parentheses _ ih =>
    intro c hc
    rw [Tree.leavesAll_ofChain_singleton] at hc
    obtain ⟨⟨l, hl, hf⟩, ⟨l', hl', hv⟩⟩ := ih c hc
    exact ⟨⟨l, by simp [hl], hf⟩, ⟨l', by simp [hl'], hv⟩⟩
  | single _ ih =>
    intro c hc
    rw [Tree.leavesAll_ofChain_singleton] at hc
    exact ih c hc
  | joined _ _ _ ih ih' =>
    intro c hc
    rw [Tree.leavesAll_ofChain_cons, List.mem_append] at hc
    rcases hc with hc | hc
    · obtain ⟨⟨l, hl, hf⟩, ⟨l', hl', hv⟩⟩ := ih c hc
      exact ⟨⟨l, by simp [hl], hf⟩, ⟨l', by simp [hl'], hv⟩⟩
    · obtain ⟨⟨l, hl, hf⟩, ⟨l', hl', hv⟩⟩ := ih' c hc
      exact ⟨⟨l, by simp [hl], hf⟩, ⟨l', by simp [hl'], hv⟩⟩

/-- Every group in the trees of a phrase has two children or more: chains of one operand and
parentheses add no group. -/
theorem Derives.everyGroup (h : Derives n p ls ts) :
    ∀ t ∈ ts, Tree.EveryGroup (2 ≤ ·.length) t := by
  induction h with
  | condition h =>
    intro t ht
    rw [List.mem_singleton.1 ht]
    exact .condition _
  | parentheses h ih =>
    intro t ht
    rw [List.mem_singleton.1 ht]
    exact Tree.everyGroup_ofChain .or h.ne_nil ih
  | single h ih =>
    intro t ht
    rw [List.mem_singleton.1 ht]
    exact Tree.everyGroup_ofChain .and h.ne_nil ih
  | joined h _ _ ih ih' =>
    intro t ht
    rcases List.mem_cons.1 ht with rfl | ht
    · exact Tree.everyGroup_ofChain .and h.ne_nil ih
    · exact ih' t ht

/-- The last lexeme of a phrase is a value or a closing parenthesis. -/
theorem Derives.last (h : Derives n p ls ts) :
    ∃ ms l, ls = ms ++ [l] ∧ (l.content?.isSome ∨ l = .closeParen) := by
  induction h with
  | condition h =>
    obtain @⟨before, after, _, _, name, operator, value, _, _, _, _, _, _, _, hvalue, _⟩ := h
    exact ⟨before ++ name :: (after ++ [operator]), value, by simp, .inl (by simp [hvalue])⟩
  | parentheses => exact ⟨.openParen :: _, .closeParen, rfl, .inr rfl⟩
  | single _ ih => exact ih
  | @joined _ _ l' ls' _ _ _ _ _ _ _ ih' =>
    obtain ⟨ms, l, rfl, hl⟩ := ih'
    exact ⟨ls' ++ l' :: ms, l, by simp, hl⟩

/-! ### Neighbours -/

/-- Whether a lexeme must be followed by the beginning of a phrase. -/
def Opens (l : Lexeme) : Prop := l = .openParen ∨ l.connective?.isSome

/-- Whether a lexeme must follow the end of a phrase. -/
def Closes (l : Lexeme) : Prop := l = .closeParen ∨ l.connective?.isSome

theorem IsPart.not_opens (h : IsPart l) : ¬ Opens l := by
  rintro (hl | hl)
  · exact h.ne_paren.1 hl
  · simp [h.connective?_eq] at hl

theorem IsPart.not_closes (h : IsPart l) : ¬ Closes l := by
  rintro (hl | hl)
  · exact h.ne_paren.2 hl
  · simp [h.connective?_eq] at hl

/-- No phrase begins with what must follow one. -/
theorem Derives.head_not_closes (h : Derives n p ls ts) : ∀ l ∈ ls.head?, ¬ Closes l := by
  obtain ⟨l, ms, rfl, hl⟩ := h.head
  rintro _ ⟨⟩
  rcases hl with hl | rfl
  · exact hl.not_closes
  · simp [Closes, Lexeme.connective?]

/-- No phrase ends with what must be followed by one. -/
theorem Derives.last_not_opens (h : Derives n p ls ts) : ∀ l ∈ ls.getLast?, ¬ Opens l := by
  obtain ⟨ms, l, rfl, hl⟩ := h.last
  rw [List.getLast?_concat]
  rintro _ ⟨⟩
  rcases hl with hl | rfl
  · exact IsPart.not_opens (.inr (.inr (.inr hl)))
  · simp [Opens, Lexeme.connective?]

theorem isChain_of_isPart (h : ∀ l ∈ ls, IsPart l) :
    ls.IsChain fun l m ↦ ¬ (Opens l ∧ Closes m) := by
  induction ls with
  | nil => exact .nil
  | cons l ls ih =>
    refine List.isChain_cons.2 ⟨fun m _ ⟨ho, _⟩ ↦ ?_, ih fun m hm ↦ h m (List.mem_cons_of_mem _ hm)⟩
    exact (h l List.mem_cons_self).not_opens ho

/-- In a phrase, what must be followed by a phrase is not followed by what must end one. -/
theorem Derives.isChain (h : Derives n p ls ts) :
    ls.IsChain fun l m ↦ ¬ (Opens l ∧ Closes m) := by
  induction h with
  | condition h => exact isChain_of_isPart h.isPart
  | parentheses h ih =>
    refine List.isChain_cons.2 ⟨fun l hl ⟨_, hc⟩ ↦ ?_, ih.append (.singleton _) ?_⟩
    · obtain ⟨l', ms, rfl, -⟩ := h.head
      exact h.head_not_closes l hl hc
    · exact fun l hl _ _ ⟨ho, _⟩ ↦ h.last_not_opens l hl ho
  | single _ ih => exact ih
  | joined h hl h' ih ih' =>
    refine ih.append (List.isChain_cons.2 ⟨fun m hm ⟨_, hc⟩ ↦ ?_, ih'⟩) ?_
    · exact h'.head_not_closes m hm hc
    · exact fun m hm _ _ ⟨ho, _⟩ ↦ h.last_not_opens m hm ho

/-! ### Lexemes of the same parts -/

/-- Whether a lexeme can stand wherever another does. -/
structure Replaces (l m : Lexeme) : Prop where
  modifier : l.modifier? = m.modifier?
  name : l.name? = m.name?
  operator : l.operator? = m.operator?
  content : l.content? = m.content?
  connective : l.connective? = m.connective?
  openParen : m = .openParen → l = .openParen
  closeParen : m = .closeParen → l = .closeParen

variable {f : Lexeme → Lexeme}

theorem map_modifier?_map {before : List Lexeme} (hf : ∀ l ∈ before, Replaces (f l) l) :
    (before.map f).map Lexeme.modifier? = before.map Lexeme.modifier? := by
  rw [List.map_map]
  exact List.map_congr_left fun l hl ↦ (hf l hl).modifier

theorem IsCondition.map (h : IsCondition ls c) (hf : ∀ l ∈ ls, Replaces (f l) l) :
    IsCondition (ls.map f) c := by
  obtain @⟨before, after, ms, ns, name, operator, value, _, _, op, hbefore, hname, hafter, hop,
    hvalue, hms⟩ := h
  simp only [List.mem_append, List.mem_cons, List.not_mem_nil, or_false] at hf
  have hbefore' := map_modifier?_map fun l hl ↦ hf l (.inl hl)
  have hafter' := map_modifier?_map fun l hl ↦ hf l (.inr (.inr (.inl hl)))
  have hname' := hf name (.inr (.inl rfl))
  have hop' := hf operator (.inr (.inr (.inr (.inl rfl))))
  have hvalue' := hf value (.inr (.inr (.inr (.inr rfl))))
  rw [List.map_append, List.map_cons, List.map_append]
  exact .intro (hbefore'.trans hbefore) (hname'.name.trans hname) (hafter'.trans hafter)
    (hop'.operator.trans hop) (hvalue'.content.trans hvalue) hms

/-- A phrase stays one, with the same trees, if its lexemes are replaced by others of the same
parts. -/
theorem Derives.map (h : Derives n p ls ts) (hf : ∀ l ∈ ls, Replaces (f l) l) :
    Derives n p (ls.map f) ts := by
  induction h with
  | condition h => exact .condition (h.map hf)
  | parentheses _ ih =>
    have hopen := (hf .openParen (by simp)).openParen rfl
    have hclose := (hf .closeParen (by simp)).closeParen rfl
    rw [List.map_cons, List.map_append, List.map_singleton, hopen, hclose]
    exact .parentheses (ih fun l hl ↦ hf l (by simp [hl]))
  | single _ ih => exact .single (ih hf)
  | @joined _ _ l _ _ _ _ _ hl _ ih ih' =>
    have hconn := (hf l (by simp)).connective
    rw [List.map_append, List.map_cons]
    exact .joined (ih fun m hm ↦ hf m (by simp [hm])) (hconn.trans hl)
      (ih' fun m hm ↦ hf m (by simp [hm]))

/-! ### Nesting -/

/-- The greatest number of parentheses open at once in a list of lexemes, where `k` are open in
front of it. -/
def nesting : Nat → List Lexeme → Nat
  | k, [] => k
  | k, .openParen :: ls => nesting (k + 1) ls
  | k, .closeParen :: ls => max k (nesting (k - 1) ls)
  | k, _ :: ls => nesting k ls

theorem nesting_cons (hl : l ≠ .openParen ∧ l ≠ .closeParen) (k : Nat) (ls : List Lexeme) :
    nesting k (l :: ls) = nesting k ls := by
  cases l <;> simp_all [nesting]

theorem nesting_append (h : ∀ l ∈ ls, l ≠ .openParen ∧ l ≠ .closeParen) (k : Nat) :
    nesting k (ls ++ rest) = nesting k rest := by
  induction ls with
  | nil => rfl
  | cons l ls ih =>
    rw [List.cons_append, nesting_cons (h l List.mem_cons_self),
      ih fun l hl ↦ h l (List.mem_cons_of_mem _ hl)]

theorem le_nesting (k : Nat) (ls : List Lexeme) : k ≤ nesting k ls := by
  fun_induction nesting k ls with
  | case1 => exact Nat.le_refl _
  | case2 => omega
  | case3 => exact Nat.le_max_left _ _
  | case4 => assumption

theorem IsCondition.nesting_append (h : IsCondition ls c) (k : Nat) :
    nesting k (ls ++ rest) = nesting k rest :=
  Grammar.nesting_append (fun l hl ↦ (h.isPart l hl).ne_paren) k

/-- A connective is no parenthesis. -/
theorem ne_paren_of_connective? (h : l.connective? = some k) :
    l ≠ .openParen ∧ l ≠ .closeParen := by
  constructor <;> rintro rfl <;> simp [Lexeme.connective?] at h

/-- The number in a derivation bounds the parentheses that are open at once. -/
theorem Derives.nesting_le (h : Derives n p ls ts) (j : Nat) (rest : List Lexeme) :
    nesting j (ls ++ rest) ≤ max (j + n) (nesting j rest) := by
  induction h generalizing j rest with
  | condition h =>
    rw [h.nesting_append]
    exact Nat.le_max_right _ _
  | @parentheses n ls ts _ ih =>
    -- What is in the parentheses is followed by the closing one, after which `j` are open again.
    have := ih (j + 1) (.closeParen :: rest)
    have hle := le_nesting j rest
    rw [nesting, Nat.add_sub_cancel] at this
    rw [List.cons_append, List.append_assoc, List.singleton_append, nesting]
    omega
  | single _ ih => exact ih j rest
  | @joined n k l ls ms ts us _ hl _ ih ih' =>
    have h₁ := ih j (l :: (ms ++ rest))
    have h₂ := ih' j rest
    rw [nesting_cons (ne_paren_of_connective? hl)] at h₁
    rw [List.append_assoc, List.cons_append]
    omega

/-! ### Tokens of a phrase -/

/-- The tokens of a condition: the lexemes are apart as the grammar says. -/
theorem isCondition_tokens_iff {toks : List Token} : IsCondition (toks.map Token.lexeme) c ↔
    ∃ before tn after tok tv ms ns op, toks = before ++ tn :: (after ++ [tok, tv]) ∧
      (before.map Token.lexeme).map Lexeme.modifier? = ms.map some ∧
      tn.lexeme.name? = some c.field ∧
      (after.map Token.lexeme).map Lexeme.modifier? = ns.map some ∧
      tok.lexeme.operator? = some op ∧ tv.lexeme.content? = some c.value ∧
      (ms ++ ns ++ op.modifiers).Nodup ∧
      c.operator = op.comparison.qualified (ms ++ ns ++ op.modifiers) := by
  constructor
  · intro h
    generalize hls : toks.map Token.lexeme = ls at h
    obtain ⟨hbefore, hname, hafter, hop, hvalue, hms⟩ := h
    obtain ⟨before, toks₁, rfl, rfl, h₁⟩ := List.map_eq_append_iff.1 hls
    obtain ⟨tn, toks₂, rfl, rfl, h₂⟩ := List.map_eq_cons_iff.1 h₁
    obtain ⟨after, toks₃, rfl, rfl, h₃⟩ := List.map_eq_append_iff.1 h₂
    obtain ⟨tok, toks₄, rfl, rfl, h₄⟩ := List.map_eq_cons_iff.1 h₃
    obtain ⟨tv, toks₅, rfl, rfl, h₅⟩ := List.map_eq_cons_iff.1 h₄
    obtain rfl := List.map_eq_nil_iff.1 h₅
    exact ⟨before, tn, after, tok, tv, _, _, _, rfl, hbefore, hname, hafter, hop, hvalue, hms, rfl⟩
  · rintro ⟨before, tn, after, tok, tv, ms, ns, op, rfl, hbefore, hname, hafter, hop, hvalue, hms,
      hc⟩
    have h : IsCondition (before.map Token.lexeme ++ tn.lexeme ::
        (after.map Token.lexeme ++ [tok.lexeme, tv.lexeme]))
        ⟨c.field, op.comparison.qualified (ms ++ ns ++ op.modifiers), c.value⟩ :=
      .intro hbefore hname hafter hop hvalue hms
    rw [← hc] at h
    simpa using h

/-- Induction over a derivation from the lexemes of tokens: each production splits the tokens as it
splits their lexemes. -/
theorem Derives.token_induction {motive : Phrase → List Token → List Tree → Prop}
    (condition : ∀ toks c, IsCondition (toks.map Token.lexeme) c → motive .term toks [.condition c])
    (parentheses : ∀ opening toks closing us, opening.lexeme = .openParen →
      closing.lexeme = .closeParen → motive (.chain .or) toks us →
      motive .term (opening :: (toks ++ [closing])) [.ofChain .or us])
    (single : ∀ k toks us, motive (.operand k) toks us → motive (.chain k) toks [.ofChain .and us])
    (joined : ∀ k toks t toks' us us', motive (.operand k) toks us → t.lexeme.connective? = some k →
      motive (.chain k) toks' us' →
      motive (.chain k) (toks ++ t :: toks') (.ofChain .and us :: us'))
    {toks : List Token} (h : Derives n p (toks.map Token.lexeme) ts) : motive p toks ts := by
  generalize hls : toks.map Token.lexeme = ls at h
  induction h generalizing toks with
  | condition h => exact condition toks _ (hls ▸ h)
  | parentheses _ ih =>
    obtain ⟨opening, toks', rfl, ho, hls'⟩ := List.map_eq_cons_iff.1 hls
    obtain ⟨inner, back, rfl, hi, hback⟩ := List.map_eq_append_iff.1 hls'
    obtain ⟨closing, back', rfl, hc, hnil⟩ := List.map_eq_cons_iff.1 hback
    obtain rfl := List.map_eq_nil_iff.1 hnil
    exact parentheses _ _ _ _ ho hc (ih hi)
  | single _ ih => exact single _ _ _ (ih hls)
  | joined _ hl _ ih ih' =>
    obtain ⟨front, back, rfl, hf, hback⟩ := List.map_eq_append_iff.1 hls
    obtain ⟨t, back', rfl, rfl, hb⟩ := List.map_eq_cons_iff.1 hback
    exact joined _ _ _ _ _ _ (ih hf) hl (ih' hb)

end Grammar

end FilterLang
