import FilterLang.Check.Shape
import FilterLang.Proofs.Grammar
import Mathlib.Data.List.Forall2

/-!
# The shapes of an expression

The checks find the conditions of an expression without a tree. On the tokens of a phrase they find
what the grammar finds: one shape for each condition of the trees, from left to right, with the
field, the operator and the value of that condition (`exists_shapes`).
-/

namespace FilterLang.Check.Shape

open Grammar

variable {t : Token} {ts toks rest : List Token} {b : Bool}

/-! ### Single tokens -/

/-- A condition starts after a connective or an opening parenthesis, whatever was in front of it. -/
theorem scan_of_opensCondition (ht : t.opensCondition = true) :
    scan b (t :: ts) = scan true ts := by
  rw [scan, if_pos ht]

/-- Where no condition may start, other tokens are passed over. -/
theorem scan_false_cons (ht : t.opensCondition = false) :
    scan false (t :: ts) = scan false ts := by
  rw [scan, if_neg (by simp [ht]), if_neg (by simp)]

theorem opensCondition_of_connective? {k : Connective} (h : t.lexeme.connective? = some k) :
    t.opensCondition = true := by
  simp [Token.opensCondition, h]

theorem opensCondition_of_isPart (h : IsPart t.lexeme) : t.opensCondition = false := by
  simp [Token.opensCondition, h.connective?_eq, h.ne_paren.1]

/-- Modifiers are passed over up to the first token that is none. -/
theorem afterModifiers_append {ms : List Modifier}
    (hms : (toks.map Token.lexeme).map Lexeme.modifier? = ms.map some)
    (ht : t.lexeme.modifier? = none) : afterModifiers (toks ++ t :: ts) = t :: ts := by
  have hall : ∀ u ∈ toks, u.lexeme.modifier?.isSome := fun u hu ↦
    isSome_modifier?_of_mem hms (List.mem_map_of_mem hu)
  rw [afterModifiers, List.dropWhile_append_of_pos hall, List.dropWhile_cons, if_neg (by simp [ht])]

/-- Where a condition may start, the first token that is no modifier is its field. -/
theorem scan_true_cons {field : Token} (ht : t.opensCondition = false)
    (h : afterModifiers (t :: ts) = field :: rest) (hf : field.isPlainWord = true) :
    scan true (t :: ts) = (ofField field rest).1 :: scan false (ofField field rest).2 := by
  rw [scan, if_neg (by simp [ht]), if_pos rfl]
  split
  · rename_i hnil
    rw [hnil] at h
    cases h
  · rename_i field' rest' hcons
    obtain ⟨rfl, rfl⟩ := List.cons.inj (h.symm.trans hcons)
    rw [if_pos hf]

theorem isPlainWord_of_name? {w : String} (h : t.lexeme.name? = some w) :
    t.isPlainWord = true := by
  obtain ⟨⟨v, _ | _ | _ | _ | _⟩ | _ | _ | _ | _ | _ | _ | _, start⟩ := t <;>
    simp_all [Lexeme.name?, Token.isPlainWord, Lexeme.isWord, Lexeme.connective?]

theorem isPlainWord_of_operator? {op : Operator} (h : t.lexeme.operator? = some op) :
    t.isPlainWord = true := by
  obtain ⟨⟨v, _ | _ | _ | _ | _⟩ | _ | _ | _ | _ | _ | _ | _, start⟩ := t <;>
    simp_all [Lexeme.operator?, Token.isPlainWord, Lexeme.isWord, Lexeme.connective?]

theorem isBoundary_of_isPart (h : IsPart t.lexeme) : t.isBoundary = false := by
  simp [Token.isBoundary, h.connective?_eq, h.ne_paren.1, h.ne_paren.2]

/-! ### Conditions -/

/-- Whether a shape shows a condition: the field, the comparison and the value in quotes. -/
def Shows (s : Shape) (c : Condition) : Prop :=
  s.field.lexeme.name? = some c.field ∧
    (∃ t op, s.operator = some t ∧ t.lexeme.operator? = some op ∧
      op.comparison = c.operator.comparison) ∧
    ∃ t, s.value = some t ∧ t.lexeme.content? = some c.value

/-- The tokens of a condition have one shape, and it shows the condition. -/
theorem scan_condition {c : Condition} (h : IsCondition (toks.map Token.lexeme) c) :
    ∃ s, Shows s c ∧ s.field ∈ toks ∧ ∀ rest, scan true (toks ++ rest) = s :: scan false rest := by
  obtain ⟨before, tn, after, tok, tv, ms, ns, op, rfl, hbefore, hname, hafter, hop, hvalue, -,
    hc⟩ := isCondition_tokens_iff.1 h
  refine ⟨⟨tn, tok, tv⟩, ⟨hname, ⟨tok, op, rfl, hop, by rw [hc]; rfl⟩, tv, rfl, hvalue⟩, by simp,
    fun rest ↦ ?_⟩
  have hfield : ofField tn (after ++ tok :: tv :: rest) = (⟨tn, tok, tv⟩, rest) := by
    rw [ofField, afterModifiers_append hafter (modifier?_eq_none_of_operator? hop)]
    have hbound : tv.isBoundary = false :=
      isBoundary_of_isPart (.inr (.inr (.inr (by simp [hvalue]))))
    simp [isPlainWord_of_operator? hop, hbound]
  have hmod : afterModifiers (before ++ tn :: (after ++ tok :: tv :: rest)) =
      tn :: (after ++ tok :: tv :: rest) :=
    afterModifiers_append hbefore (modifier?_eq_none_of_name? hname)
  have happend : before ++ tn :: (after ++ [tok, tv]) ++ rest =
      before ++ tn :: (after ++ tok :: tv :: rest) := by simp
  rw [happend]
  -- The scan looks at the first token, which is a modifier if there are any and else the field.
  obtain ⟨t, ts, hts⟩ : ∃ t ts, before ++ tn :: (after ++ tok :: tv :: rest) = t :: ts := by
    cases before with
    | nil => exact ⟨_, _, rfl⟩
    | cons t before => exact ⟨_, _, rfl⟩
  have ht : IsPart t.lexeme := by
    refine h.isPart _ (List.mem_map_of_mem ?_)
    cases before with
    | nil => simp_all
    | cons u before => simp_all
  rw [hts] at hmod ⊢
  rw [scan_true_cons (opensCondition_of_isPart ht) hmod (isPlainWord_of_name? hname), hfield]

/-! ### Phrases -/

/-- The tokens of a phrase have one shape for each condition of its trees, in the same order. After
a phrase no condition may start. -/
theorem exists_shapes {n : Nat} {p : Phrase} {us : List Tree}
    (h : Derives n p (toks.map Token.lexeme) us) :
    ∃ shapes, List.Forall₂ Shows shapes (Tree.leavesAll us) ∧ (∀ s ∈ shapes, s.field ∈ toks) ∧
      ∀ rest, scan true (toks ++ rest) = shapes ++ scan false rest := by
  refine h.token_induction (motive := fun _ toks us ↦ ∃ shapes, List.Forall₂ Shows shapes
    (Tree.leavesAll us) ∧ (∀ s ∈ shapes, s.field ∈ toks) ∧
      ∀ rest, scan true (toks ++ rest) = shapes ++ scan false rest)
    ?condition ?parentheses ?single ?joined
  case condition =>
    intro toks c hc
    obtain ⟨s, hs, hmem, hscan⟩ := scan_condition hc
    exact ⟨[s], .cons hs .nil, by simpa using hmem, hscan⟩
  case parentheses =>
    rintro opening toks closing us ho hc ⟨shapes, hs, hmem, hscan⟩
    refine ⟨shapes, ?_, fun s h ↦ by simp [hmem s h], fun rest ↦ ?_⟩
    · rwa [Tree.leavesAll_ofChain_singleton]
    · rw [List.cons_append, scan_of_opensCondition (by simp [Token.opensCondition, ho]),
        List.append_assoc, hscan, List.singleton_append,
        scan_false_cons (by simp [Token.opensCondition, hc, Lexeme.connective?])]
  case single =>
    rintro k toks us ⟨shapes, hs, hmem, hscan⟩
    refine ⟨shapes, ?_, hmem, hscan⟩
    rwa [Tree.leavesAll_ofChain_singleton]
  case joined =>
    rintro k toks t toks' us us' ⟨shapes, hs, hmem, hscan⟩ ht ⟨shapes', hs', hmem', hscan'⟩
    refine ⟨shapes ++ shapes', ?_, fun s h ↦ ?_, fun rest ↦ ?_⟩
    · rw [Tree.leavesAll_ofChain_cons]
      exact List.rel_append hs hs'
    · rcases List.mem_append.1 h with h | h
      · simp [hmem s h]
      · simp [hmem' s h]
    · rw [List.append_assoc, hscan, List.cons_append,
        scan_of_opensCondition (opensCondition_of_connective? ht), hscan', List.append_assoc]

/-- The shapes of an expression show its conditions, one for one. -/
theorem shows_ofTokens {n : Nat} {p : Phrase} {us : List Tree}
    (h : Derives n p (toks.map Token.lexeme) us) :
    List.Forall₂ Shows (ofTokens toks) (Tree.leavesAll us) ∧
      ∀ s ∈ ofTokens toks, s.field ∈ toks := by
  obtain ⟨shapes, hshows, hmem, hscan⟩ := exists_shapes h
  have hnil : scan false [] = [] := by rw [scan]
  have hscan := hscan []
  rw [hnil, List.append_nil, List.append_nil] at hscan
  rw [ofTokens, hscan]
  exact ⟨hshows, hmem⟩

end FilterLang.Check.Shape
