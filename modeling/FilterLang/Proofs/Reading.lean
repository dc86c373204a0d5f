import FilterLang.Proofs.Cutting
import FilterLang.Proofs.Grammar
import Mathlib.Data.List.Nodup

/-!
# The readers and the grammar

`Reads r a rest` says that a reader succeeded with `a` and left the tokens `rest`, and forgets the
proof that those are fewer. Each reader has one lemma that says exactly when it succeeds, and no
proof outside this module opens a reader.

The main statement is that a text has a tree exactly if its significant lexemes are an expression of
the grammar with that tree (`Tree.parse_eq_ok_iff`). It rests on one fact about readers of phrases,
`Accepts`: a phrase is read to its end wherever what follows cannot go on with it, and nothing else
is read. Chains of a reader with that property have it again (`accepts_chain`), and so do terms with
such chains in parentheses (`accepts_term_some`). So the levels of the grammar follow by induction
on the number of parentheses that may still be opened (`accepts_expression`).
-/

namespace FilterLang.Expression

open Grammar

/-! ### Results of readers -/

/-- A reader succeeded with `a` and left the tokens `rest`. -/
def Reads {α : Type} {p : List Token → Prop}
    (r : Except Refusal (α × { rest : List Token // p rest })) (a : α) (rest : List Token) : Prop :=
  ∃ h, r = .ok (a, ⟨rest, h⟩)

section Reads

variable {α β : Type} {p q : List Token → Prop} {a b : α} {rest : List Token}

theorem reads_ok {h : p rest} {mid : List Token} :
    Reads (.ok (a, (⟨rest, h⟩ : { rest : List Token // p rest }))) b mid ↔ a = b ∧ rest = mid := by
  constructor
  · rintro ⟨h', he⟩
    have := Except.ok.inj he
    simpa using this
  · rintro ⟨rfl, rfl⟩
    exact ⟨h, rfl⟩

theorem not_reads_error {e : Refusal} :
    ¬ Reads (.error e : Except Refusal (α × { rest : List Token // p rest })) a rest := by
  rintro ⟨_, h⟩
  cases h

/-- A computation and then a reader succeed if both do. -/
theorem reads_bind {x : Except Refusal α}
    {g : α → Except Refusal (β × { rest : List Token // q rest })} {b : β} :
    Reads (x >>= g) b rest ↔ ∃ a, x = .ok a ∧ Reads (g a) b rest := by
  cases x with
  | error e =>
    constructor
    · exact fun h ↦ absurd h not_reads_error
    · rintro ⟨a, he, -⟩
      cases he
  | ok a =>
    constructor
    · exact fun h ↦ ⟨a, rfl, h⟩
    · rintro ⟨a', he, h⟩
      cases he
      exact h

/-- A reader and then another succeed if both do, and the second goes on where the first stopped. -/
theorem reads_bind_reader {r : Except Refusal (α × { rest : List Token // p rest })}
    {g : α × { rest : List Token // p rest } → Except Refusal (β × { rest : List Token // q rest })}
    {b : β} {P : α → List Token → Prop}
    (hP : ∀ a mid h, Reads (g (a, ⟨mid, h⟩)) b rest ↔ P a mid) :
    Reads (r >>= g) b rest ↔ ∃ a mid, Reads r a mid ∧ P a mid := by
  rw [reads_bind]
  constructor
  · rintro ⟨⟨a, mid, h⟩, hr, hg⟩
    exact ⟨a, mid, ⟨h, hr⟩, (hP a mid h).1 hg⟩
  · rintro ⟨a, mid, ⟨h, hr⟩, hg⟩
    exact ⟨(a, ⟨mid, h⟩), hr, (hP a mid h).2 hg⟩

end Reads

/-! ### Flags -/

namespace Flags

/-- The flags after the modifiers of a list. -/
def ofList (ms : List Modifier) : Flags := ⟨decide (.not ∈ ms), decide (.caseSensitive ∈ ms)⟩

theorem has_ofList (ms : List Modifier) (m : Modifier) :
    (ofList ms).has m = decide (m ∈ ms) := by
  cases m <;> rfl

/-- A modifier is added if it is new. -/
theorem add_ofList {ms : List Modifier} {m : Modifier} {t : Token} {f : Flags} :
    (ofList ms).add m t = .ok f ↔ m ∉ ms ∧ f = ofList (ms ++ [m]) := by
  unfold add
  rw [has_ofList]
  by_cases hm : m ∈ ms
  · simp [hm]
  · cases m <;> simp [hm, ofList, eq_comm]

theorem addIf_ofList {ms : List Modifier} {m : Modifier} {b : Bool} {t : Token} {f : Flags} :
    (ofList ms).addIf b m t = .ok f ↔
      (b = true → m ∉ ms) ∧ f = ofList (ms ++ if b then [m] else []) := by
  cases b with
  | false => simp [addIf, eq_comm]
  | true => simp [addIf, add_ofList]

end Flags

/-! ### Readers of parts of a condition -/

variable {ts rest : List Token} {ms : List Modifier} {f : Flags}

theorem reads_modifiers_cons {t : Token} {m : Modifier} {g : Flags}
    (hm : t.lexeme.modifier? = some m) :
    Reads (modifiers f (t :: ts)) g rest ↔
      ∃ f', f.add m t = .ok f' ∧ Reads (modifiers f' ts) g rest := by
  rw [modifiers]
  split
  · rename_i hnone
    simp [hm] at hnone
  · rename_i m' hm'
    obtain rfl : m = m' := Option.some.inj (hm.symm.trans hm')
    rw [reads_bind]
    refine exists_congr fun f' ↦ and_congr_right fun _ ↦ ?_
    refine (reads_bind_reader (P := fun f'' mid ↦ f'' = g ∧ mid = rest) ?_).trans ?_
    · exact fun _ _ _ ↦ reads_ok
    · simp

theorem nodup_concat {ms : List Modifier} {m : Modifier} (hms : ms.Nodup) :
    (ms ++ [m]).Nodup ↔ m ∉ ms := by
  simp [List.nodup_append', hms]

/-- The modifiers at the front are read to the last, each of them new. -/
theorem reads_modifiers (hms : ms.Nodup) :
    Reads (modifiers (.ofList ms) ts) f rest ↔
      ∃ front ns, ts = front ++ rest ∧
        (front.map Token.lexeme).map Lexeme.modifier? = ns.map some ∧ (ms ++ ns).Nodup ∧
        f = .ofList (ms ++ ns) ∧ ∀ t ∈ rest.head?, t.lexeme.modifier? = none := by
  induction ts generalizing ms with
  | nil =>
    rw [modifiers, reads_ok]
    constructor
    · rintro ⟨rfl, rfl⟩
      exact ⟨[], [], by simp [hms]⟩
    · rintro ⟨front, ns, hts, hns, -, rfl, -⟩
      obtain ⟨rfl, rfl⟩ := List.append_eq_nil_iff.1 hts.symm
      obtain rfl : ns = [] := by simpa using hns
      simp
  | cons t ts ih =>
    cases hm : t.lexeme.modifier? with
    | none =>
      rw [modifiers]
      split
      · rw [reads_ok]
        constructor
        · rintro ⟨rfl, rfl⟩
          exact ⟨[], [], by simp [hms, hm]⟩
        · rintro ⟨front, ns, hts, hns, -, rfl, hrest⟩
          cases front with
          | nil =>
            obtain rfl : ns = [] := by simpa using hns
            simpa using hts
          | cons u front =>
            obtain ⟨rfl, rfl⟩ := List.cons.inj hts
            cases ns <;> simp [hm] at hns
      · rename_i m hm'
        simp [hm] at hm'
    | some m =>
      rw [reads_modifiers_cons hm]
      constructor
      · rintro ⟨f', hadd, h⟩
        obtain ⟨hnew, rfl⟩ := Flags.add_ofList.1 hadd
        obtain ⟨front, ns, rfl, hns, hnodup, rfl, hrest⟩ := (ih ((nodup_concat hms).2 hnew)).1 h
        rw [List.append_assoc, List.singleton_append] at hnodup
        exact ⟨t :: front, m :: ns, rfl, by simp [hm, hns], hnodup, by simp, hrest⟩
      · rintro ⟨front, ns, hts, hns, hnodup, rfl, hrest⟩
        cases front with
        | nil =>
          rw [List.nil_append] at hts
          simp [← hts, hm] at hrest
        | cons u front =>
          obtain ⟨rfl, rfl⟩ := List.cons.inj hts
          cases ns with
          | nil => simp at hns
          | cons m' ns =>
            rw [List.map_cons, List.map_cons] at hns
            obtain ⟨hm', hns'⟩ := List.cons.inj hns
            obtain rfl : m = m' := Option.some.inj (hm.symm.trans hm')
            rw [List.append_cons] at hnodup
            refine ⟨.ofList (ms ++ [m]), Flags.add_ofList.2 ⟨?_, rfl⟩, (ih ?_).2
              ⟨front, ns, rfl, hns', hnodup, by simp, hrest⟩⟩
            · exact (nodup_concat hms).1 hnodup.of_append_left
            · exact hnodup.of_append_left

theorem reads_field {w : String} :
    Reads (field ts) w rest ↔ ∃ t, ts = t :: rest ∧ t.lexeme.name? = some w := by
  cases ts with
  | nil => simp [field, not_reads_error]
  | cons t ts =>
    rcases t with ⟨⟨v, _ | _ | _ | _ | _⟩ | _ | _ | _ | _ | _ | _ | _, start⟩ <;>
      simp [field, reads_ok, not_reads_error, Lexeme.name?, and_comm, eq_comm]

theorem reads_value {k : Comparison} {v : String} :
    Reads (value k ts) v rest ↔ ∃ t, ts = t :: rest ∧ t.lexeme.content? = some v := by
  cases ts with
  | nil => simp [value, not_reads_error]
  | cons t ts =>
    rcases t with ⟨_ | _ | _ | _ | _ | _ | _ | _, start⟩ <;>
      simp [value, reads_ok, not_reads_error, Lexeme.content?, and_comm, eq_comm]

/-- The modifiers of an operator are new, one after the other, exactly if none repeats another. -/
theorem nodup_append_modifiers {ms : List Modifier} (hms : ms.Nodup) (op : Operator) :
    (ms ++ op.modifiers).Nodup ↔ (op.negate = true → .not ∉ ms) ∧
      (op.caseSensitive = true →
        .caseSensitive ∉ ms ++ if op.negate then [Modifier.not] else []) := by
  obtain ⟨k, n, s⟩ := op
  cases n <;> cases s <;> simp [Operator.modifiers, hms, List.nodup_append']

theorem reads_operator {name : String} {k : Comparison} (hms : ms.Nodup) :
    Reads (operator name (.ofList ms) ts) (k, f) rest ↔
      ∃ t op, ts = t :: rest ∧ t.lexeme.operator? = some op ∧ k = op.comparison ∧
        (ms ++ op.modifiers).Nodup ∧ f = .ofList (ms ++ op.modifiers) := by
  cases ts with
  | nil => simp [operator, not_reads_error]
  | cons t ts =>
    rcases t with ⟨⟨v, _ | op | _ | _ | _⟩ | _ | _ | _ | _ | _ | _ | _, start⟩
    case word.operator =>
      simp only [operator, reads_bind]
      constructor
      · rintro ⟨f₁, h₁, f₂, h₂, h⟩
        obtain ⟨hn, rfl⟩ := Flags.addIf_ofList.1 h₁
        obtain ⟨hs, rfl⟩ := Flags.addIf_ofList.1 h₂
        obtain ⟨he, rfl⟩ := reads_ok.1 h
        obtain ⟨rfl, rfl⟩ := Prod.mk.inj he
        exact ⟨_, op, rfl, rfl, rfl, (nodup_append_modifiers hms op).2 ⟨hn, hs⟩,
          by rw [Operator.modifiers, List.append_assoc]⟩
      · rintro ⟨t, op', hts, hop, rfl, hnodup, rfl⟩
        obtain ⟨rfl, rfl⟩ := List.cons.inj hts
        obtain rfl : op = op' := Option.some.inj hop
        obtain ⟨hn, hs⟩ := (nodup_append_modifiers hms op).1 hnodup
        refine ⟨_, Flags.addIf_ofList.2 ⟨hn, rfl⟩, _, Flags.addIf_ofList.2 ⟨hs, rfl⟩, ?_⟩
        rw [List.append_assoc, ← Operator.modifiers]
        exact reads_ok.2 ⟨rfl, rfl⟩
    all_goals simp [operator, not_reads_error, Lexeme.operator?]

/-! ### Conditions -/

/-- A condition is read in five steps. -/
theorem reads_condition_steps {t : Tree} :
    Reads (condition ts) t rest ↔
      ∃ f₁ ts₁, Reads (modifiers .none ts) f₁ ts₁ ∧
      ∃ name ts₂, Reads (field ts₁) name ts₂ ∧
      ∃ f₂ ts₃, Reads (modifiers f₁ ts₂) f₂ ts₃ ∧
      ∃ op ts₄, Reads (operator name f₂ ts₃) op ts₄ ∧
      ∃ content mid, Reads (value op.1 ts₄) content mid ∧
        Tree.condition ⟨name, ⟨op.1, op.2.negate, op.2.caseSensitive⟩, content⟩ = t ∧
          mid = rest := by
  unfold condition
  refine reads_bind_reader fun f₁ ts₁ h₁ ↦ ?_
  refine reads_bind_reader fun name ts₂ h₂ ↦ ?_
  refine reads_bind_reader fun f₂ ts₃ h₃ ↦ ?_
  refine reads_bind_reader fun ⟨k, f₃⟩ ts₄ h₄ ↦ ?_
  refine reads_bind_reader fun content mid h₅ ↦ ?_
  exact reads_ok

/-- The reader of conditions accepts the lexemes of a condition and stops after them, whatever
follows. -/
theorem reads_condition {t : Tree} :
    Reads (condition ts) t rest ↔
      ∃ front c, ts = front ++ rest ∧ IsCondition (front.map Token.lexeme) c ∧
        t = .condition c := by
  have hnil : Flags.none = .ofList [] := rfl
  rw [reads_condition_steps, hnil]
  constructor
  · rintro ⟨f₁, ts₁, h₁, name, ts₂, h₂, f₂, ts₃, h₃, ⟨k, f₃⟩, ts₄, h₄, content, mid, h₅, rfl, rfl⟩
    -- The flags are those of the modifiers so far, which no part may repeat.
    obtain ⟨before, ms, rfl, hms, hnodup, rfl, -⟩ := (reads_modifiers List.nodup_nil).1 h₁
    obtain ⟨tn, rfl, hname⟩ := reads_field.1 h₂
    obtain ⟨after, ns, rfl, hns, hnodup', rfl, -⟩ := (reads_modifiers hnodup).1 h₃
    obtain ⟨tok, op, rfl, hop, rfl, hall, rfl⟩ := (reads_operator hnodup').1 h₄
    obtain ⟨tv, rfl, hvalue⟩ := reads_value.1 h₅
    exact ⟨before ++ tn :: (after ++ [tok, tv]), _, by simp, isCondition_tokens_iff.2
      ⟨before, tn, after, tok, tv, ms, ns, op, rfl, hms, hname, hns, hop, hvalue, hall, rfl⟩, rfl⟩
  · rintro ⟨front, c, rfl, hcond, rfl⟩
    obtain ⟨before, tn, after, tok, tv, ms, ns, op, rfl, hbefore, hname, hafter, hop, hvalue, hall,
      hc⟩ := isCondition_tokens_iff.1 hcond
    have hms : ms.Nodup := hall.of_append_left.of_append_left
    refine ⟨.ofList ms, tn :: (after ++ tok :: tv :: rest), ?_, c.field, after ++ tok :: tv :: rest,
      ?_, .ofList (ms ++ ns), tok :: tv :: rest, ?_,
      (op.comparison, .ofList (ms ++ ns ++ op.modifiers)), tv :: rest, ?_, c.value, rest, ?_, ?_,
      rfl⟩
    · refine (reads_modifiers List.nodup_nil).2
        ⟨before, ms, by simp, hbefore, by simpa, by simp, ?_⟩
      simpa using modifier?_eq_none_of_name? hname
    · exact reads_field.2 ⟨tn, rfl, hname⟩
    · refine (reads_modifiers hms).2 ⟨after, ns, rfl, hafter, hall.of_append_left, rfl, ?_⟩
      simpa using modifier?_eq_none_of_operator? hop
    · exact (reads_operator hall.of_append_left).2 ⟨tok, op, rfl, hop, rfl, hall, rfl⟩
    · exact reads_value.2 ⟨tv, rfl, hvalue⟩
    · exact congrArg (fun o ↦ Tree.condition ⟨c.field, o, c.value⟩) hc.symm

/-! ### Terms and chains -/

/-- Whether a phrase cannot go on with the tokens that follow it. -/
def Stops (p : Phrase) (rest : List Token) : Prop :=
  ∀ t ∈ rest.head?, ∀ k ∈ t.lexeme.connective?, k ∉ p.joins

/-- A reader accepts just the phrases of one kind, where they cannot go on, and returns their trees.
-/
def Accepts (n : Nat) (p : Phrase) (r : Reader Tree) : Prop :=
  ∀ ts t rest, Reads (r ts) t rest ↔ ∃ front us, ts = front ++ rest ∧
    Derives n p (front.map Token.lexeme) us ∧ t = .ofChain p.joint us ∧ Stops p rest

variable {n : Nat} {k : Connective} {r : Reader Tree} {t : Tree} {us : List Tree}

theorem stops_chain : Stops (.chain k) rest ↔
    Stops (.operand k) rest ∧ ∀ t ∈ rest.head?, t.lexeme.connective? ≠ some k := by
  cases rest with
  | nil => simp [Stops]
  | cons t rest =>
    cases hk : t.lexeme.connective? with
    | none => simp [Stops, hk]
    | some j => cases k <;> cases j <;> simp [Stops, hk, Phrase.joins, Phrase.operand]

/-- A connective ends the operand in front of it. -/
theorem stops_operand {t : Token} (ht : t.lexeme.connective? = some k) :
    Stops (.operand k) (t :: ts) := by
  cases k <;> simp [Stops, ht, Phrase.joins, Phrase.operand]

/-- A chain that cannot go on after its last operand has an end to every operand. -/
theorem stops_further {tail : List Token} (h : Further n k (tail.map Token.lexeme) us)
    (hs : Stops (.chain k) rest) : Stops (.operand k) (tail ++ rest) := by
  cases tail with
  | nil => exact (stops_chain.1 hs).1
  | cons t tail => exact stops_operand h.1

/-- The operands of a chain of `OR` are chains of `AND`, and a term is as good as one. -/
theorem joint_operand (k : Connective) : (Phrase.operand k).joint = .and := by
  cases k <;> rfl

theorem reads_operands_cons {t : Token} (ht : t.lexeme.connective? = some k) :
    Reads (operands k r (t :: ts)) us rest ↔
      ∃ first after, Reads (r ts) first after ∧
      ∃ others mid, Reads (operands k r after) others mid ∧ first :: others = us ∧ mid = rest := by
  rw [operands, if_pos ht]
  refine reads_bind_reader fun first after h ↦ ?_
  exact reads_bind_reader fun others mid h' ↦ reads_ok

/-- The further operands of a chain are read to the last, where the operand in front of them has
ended. -/
theorem reads_operands (hr : Accepts n (.operand k) r) (hts : Stops (.operand k) ts) :
    Reads (operands k r ts) us rest ↔ ∃ tail, ts = tail ++ rest ∧
      Further n k (tail.map Token.lexeme) us ∧ Stops (.chain k) rest := by
  -- The induction is on a bound of the length: an operand takes any number of tokens away.
  obtain ⟨len, hlen⟩ : ∃ len, ts.length ≤ len := ⟨_, Nat.le_refl _⟩
  induction len generalizing ts us rest with
  | zero =>
    obtain rfl := List.length_eq_zero_iff.1 (Nat.le_zero.1 hlen)
    rw [operands, reads_ok]
    constructor
    · rintro ⟨rfl, rfl⟩
      exact ⟨[], rfl, rfl, by simp [Stops]⟩
    · rintro ⟨tail, hts, hf, -⟩
      obtain ⟨rfl, rfl⟩ := List.append_eq_nil_iff.1 hts.symm
      exact ⟨hf.symm, rfl⟩
  | succ len ih =>
    cases ts with
    | nil => exact ih hts (Nat.zero_le _)
    | cons t ts =>
      by_cases ht : t.lexeme.connective? = some k
      · rw [reads_operands_cons ht]
        constructor
        · rintro ⟨first, after, hfirst, others, _, hothers, rfl, rfl⟩
          -- That a reader leaves less than it was given is part of its result.
          have hlt := hfirst.1
          obtain ⟨front, vs, rfl, hd, rfl, hs⟩ := (hr _ _ _).1 hfirst
          obtain ⟨tail, rfl, hf, hs'⟩ := (ih hs (by simp at hlen hlt ⊢; omega)).1 hothers
          refine ⟨t :: (front ++ tail), by simp, ⟨ht, ?_⟩, hs'⟩
          rw [List.map_append]
          exact derives_chain_iff.2 ⟨_, _, _, _, rfl, hd, hf, by rw [joint_operand]⟩
        · rintro ⟨tail, hts', hf, hs⟩
          cases tail with
          | nil =>
            rw [List.nil_append] at hts'
            subst hts'
            exact absurd ht ((stops_chain.1 hs).2 t rfl)
          | cons u tail =>
            obtain ⟨rfl, rfl⟩ := List.cons.inj hts'
            obtain ⟨front', tail', ts', vs, hls, hd, hf', rfl⟩ := derives_chain_iff.1 hf.2
            obtain ⟨front, back, rfl, rfl, rfl⟩ := List.map_eq_append_iff.1 hls
            have hs' := stops_further hf' hs
            refine ⟨_, back ++ rest, (hr _ _ _).2 ⟨front, ts', by simp, hd, rfl, hs'⟩, vs, rest, ?_,
              by rw [joint_operand], rfl⟩
            exact (ih hs' (by simp at hlen ⊢; omega)).2 ⟨back, rfl, hf', hs⟩
      · -- Without its connective the chain ends here, so there are no further operands.
        rw [operands, if_neg ht, reads_ok]
        constructor
        · rintro ⟨rfl, rfl⟩
          exact ⟨[], rfl, rfl, stops_chain.2 ⟨hts, by simpa using ht⟩⟩
        · rintro ⟨tail, hts', hf, -⟩
          cases tail with
          | nil => exact ⟨hf.symm, hts'⟩
          | cons u tail =>
            obtain ⟨rfl, rfl⟩ := List.cons.inj hts'
            exact absurd hf.1 ht

/-- A chain of operands that a reader accepts is read to the last of them. -/
theorem accepts_chain (hr : Accepts n (.operand k) r) : Accepts n (.chain k) (chain k r) := by
  intro ts t rest
  have hchain : Reads (chain k r ts) t rest ↔ ∃ first after, Reads (r ts) first after ∧
      ∃ others mid, Reads (operands k r after) others mid ∧
        .ofChain k (first :: others) = t ∧ mid = rest := by
    refine reads_bind_reader fun first after h ↦ ?_
    exact reads_bind_reader fun others mid h' ↦ reads_ok
  rw [hchain]
  constructor
  · rintro ⟨first, after, hfirst, others, _, hothers, rfl, rfl⟩
    obtain ⟨front, vs, rfl, hd, rfl, hs⟩ := (hr _ _ _).1 hfirst
    obtain ⟨tail, rfl, hf, hs'⟩ := (reads_operands hr hs).1 hothers
    refine ⟨front ++ tail, _, by simp, ?_, rfl, hs'⟩
    rw [List.map_append]
    exact derives_chain_iff.2 ⟨_, _, _, _, rfl, hd, hf, by rw [joint_operand]⟩
  · rintro ⟨front, us, rfl, hd, rfl, hs⟩
    obtain ⟨front', tail', ts', vs, hls, hd', hf, rfl⟩ := derives_chain_iff.1 hd
    obtain ⟨front, back, rfl, rfl, rfl⟩ := List.map_eq_append_iff.1 hls
    have hs' := stops_further hf hs
    exact ⟨_, back ++ rest, (hr _ _ _).2 ⟨front, ts', by simp, hd', rfl, hs'⟩, vs, rest,
      (reads_operands hr hs').2 ⟨back, rfl, hf, hs⟩, by rw [joint_operand]; rfl, rfl⟩

theorem term_eq_condition {inner : Option (Reader Tree)} {t : Token}
    (ht : t.lexeme ≠ .openParen) : term inner (t :: ts) = condition (t :: ts) := by
  unfold term
  dsimp only
  split
  · rename_i h
    exact absurd h ht
  · rfl

/-- A condition is a term whatever parentheses may be opened. -/
theorem reads_term_condition {inner : Option (Reader Tree)} {t : Token} {tree : Tree}
    (ht : t.lexeme ≠ .openParen) :
    Reads (term inner (t :: ts)) tree rest ↔ ∃ front us, t :: ts = front ++ rest ∧
      Derives n .term (front.map Token.lexeme) us ∧ tree = .ofChain .and us ∧ Stops .term rest := by
  rw [term_eq_condition ht, reads_condition]
  constructor
  · rintro ⟨front, c, hts, hc, rfl⟩
    exact ⟨front, _, hts, .condition hc, rfl, by simp [Stops, Phrase.joins]⟩
  · rintro ⟨front, us, hts, hd, rfl, -⟩
    rcases derives_term_iff.1 hd with ⟨c, hc, rfl⟩ | ⟨m, inner, vs, rfl, hls, -, rfl⟩
    · exact ⟨front, c, hts, hc, rfl⟩
    · obtain ⟨u, front', rfl, hu, -⟩ := List.map_eq_cons_iff.1 hls
      obtain ⟨rfl, -⟩ := List.cons.inj hts
      exact absurd hu ht

/-- Nothing is read where nothing is left, and nothing derives it. -/
theorem reads_term_nil {inner : Option (Reader Tree)} {tree : Tree} :
    Reads (term inner []) tree rest ↔ ∃ front us, [] = front ++ rest ∧
      Derives n .term (front.map Token.lexeme) us ∧ tree = .ofChain .and us ∧ Stops .term rest := by
  constructor
  · exact fun h ↦ absurd h not_reads_error
  · rintro ⟨front, us, hts, hd, -⟩
    obtain ⟨rfl, rfl⟩ := List.append_eq_nil_iff.1 hts.symm
    obtain ⟨l, ms, hls, -⟩ := hd.head
    cases hls

/-- A term that starts with a parenthesis is an expression and the closing one. -/
theorem term_of_openParen {t : Token} {tree : Tree} (ht : t.lexeme = .openParen) :
    (∃ front us, t :: ts = front ++ rest ∧ Derives n .term (front.map Token.lexeme) us ∧
        tree = .ofChain .and us ∧ Stops .term rest) ↔
      ∃ m inner close us, n = m + 1 ∧ ts = inner ++ close :: rest ∧ close.lexeme = .closeParen ∧
        Derives m (.chain .or) (inner.map Token.lexeme) us ∧ tree = .ofChain .or us := by
  constructor
  · rintro ⟨front, us, hts, hd, rfl, -⟩
    rcases derives_term_iff.1 hd with ⟨c, hc, rfl⟩ | ⟨m, inner, vs, rfl, hls, hd', rfl⟩
    · obtain ⟨l, ls, hl⟩ := List.exists_cons_of_ne_nil hc.ne_nil
      obtain ⟨u, front', rfl, rfl, -⟩ := List.map_eq_cons_iff.1 hl
      obtain ⟨rfl, -⟩ := List.cons.inj hts
      exact absurd ht (hc.isPart _ (by simp)).ne_paren.1
    · obtain ⟨u, front', rfl, -, hls'⟩ := List.map_eq_cons_iff.1 hls
      obtain ⟨front, back, rfl, rfl, hback⟩ := List.map_eq_append_iff.1 hls'
      obtain ⟨close, back', rfl, hc, hnil⟩ := List.map_eq_cons_iff.1 hback
      obtain rfl := List.map_eq_nil_iff.1 hnil
      obtain ⟨rfl, rfl⟩ := List.cons.inj hts
      exact ⟨m, front, close, vs, rfl, by simp, hc, hd', rfl⟩
  · rintro ⟨m, inner, close, us, rfl, rfl, hc, hd, rfl⟩
    refine ⟨t :: (inner ++ [close]), [.ofChain .or us], by simp, ?_, rfl,
      by simp [Stops, Phrase.joins]⟩
    simpa [ht, hc] using hd.parentheses

theorem term_none_openParen {t : Token} (ht : t.lexeme = .openParen) :
    term none (t :: ts) = .error ⟨.nestedTooDeeply, t⟩ := by
  unfold term
  dsimp only
  rw [ht]

/-- Where no parenthesis may be opened, a term is a condition. -/
theorem accepts_term_none : Accepts 0 .term (term none) := by
  intro ts tree rest
  cases ts with
  | nil => exact reads_term_nil
  | cons t ts =>
    by_cases ht : t.lexeme = .openParen
    · rw [term_none_openParen ht, Phrase.joint, term_of_openParen ht]
      constructor
      · exact fun h ↦ absurd h not_reads_error
      · rintro ⟨m, -, -, -, hm, -⟩
        cases hm
    · exact reads_term_condition ht

/-- What parentheses enclose, and the closing one. -/
theorem reads_parentheses {t : Token} {tree : Tree} (ht : t.lexeme = .openParen)
    (hts : ts.head?.map Token.lexeme ≠ some .closeParen) :
    Reads (term (some r) (t :: ts)) tree rest ↔
      ∃ close, Reads (r ts) tree (close :: rest) ∧ close.lexeme = .closeParen := by
  have hterm : Reads (term (some r) (t :: ts)) tree rest ↔ ∃ tree' after, Reads (r ts) tree' after ∧
      ∃ close, after = close :: rest ∧ close.lexeme = .closeParen ∧ tree' = tree := by
    unfold term
    dsimp only
    rw [ht]
    dsimp only
    split
    · rename_i h
      exact absurd h hts
    · refine reads_bind_reader fun tree' after h ↦ ?_
      cases after with
      | nil => simp [not_reads_error]
      | cons close after =>
        by_cases hc : close.lexeme = .closeParen
        · simp [hc, reads_ok, and_comm, eq_comm]
        · simp [hc, not_reads_error]
  rw [hterm]
  constructor
  · rintro ⟨_, _, hr, close, rfl, hc, rfl⟩
    exact ⟨close, hr, hc⟩
  · rintro ⟨close, hr, hc⟩
    exact ⟨_, _, hr, close, rfl, hc, rfl⟩

/-- Empty parentheses are no term. -/
theorem term_empty_parentheses {t : Token} (ht : t.lexeme = .openParen)
    (hts : ts.head?.map Token.lexeme = some .closeParen) :
    term (some r) (t :: ts) = .error ⟨.emptyParentheses, t⟩ := by
  unfold term
  dsimp only
  rw [ht, hts]

/-- With parentheses around what a reader accepts, terms have one level more of them. -/
theorem accepts_term_some (hr : Accepts n (.chain .or) r) :
    Accepts (n + 1) .term (term (some r)) := by
  intro ts tree rest
  cases ts with
  | nil => exact reads_term_nil
  | cons t ts =>
    by_cases ht : t.lexeme = .openParen
    · rw [Phrase.joint, term_of_openParen ht]
      -- Empty parentheses are refused with an error of their own, before any expression is read.
      by_cases hts : ts.head?.map Token.lexeme = some .closeParen
      · rw [term_empty_parentheses ht hts]
        refine iff_of_false not_reads_error ?_
        rintro ⟨m, inner, close, us, -, rfl, -, hd, -⟩
        obtain ⟨l, ls, hl, hpart⟩ := hd.head
        obtain ⟨u, inner', rfl, rfl, -⟩ := List.map_eq_cons_iff.1 hl
        obtain hu : u.lexeme = .closeParen := Option.some.inj hts
        rcases hpart with hpart | hopen
        · exact hpart.ne_paren.2 hu
        · simp [hu] at hopen
      · rw [reads_parentheses ht hts]
        constructor
        · rintro ⟨close, hread, hc⟩
          obtain ⟨front, us, rfl, hd, rfl, -⟩ := (hr _ _ _).1 hread
          exact ⟨n, front, close, us, rfl, rfl, hc, hd, rfl⟩
        · rintro ⟨m, inner, close, us, hm, rfl, hc, hd, rfl⟩
          obtain rfl := Nat.succ.inj hm
          exact ⟨close, (hr _ _ _).2 ⟨inner, us, rfl, hd, rfl, by
            simp [Stops, hc, Lexeme.connective?]⟩, hc⟩
    · exact reads_term_condition ht

/-- The reader of expressions accepts the expressions of the grammar. -/
theorem accepts_expression (n : Nat) : Accepts n (.chain .or) (expression n) := by
  induction n with
  | zero => exact accepts_chain (accepts_chain accepts_term_none)
  | succ n ih => exact accepts_chain (accepts_chain (accepts_term_some ih))

/-! ### Whole expressions -/

/-- Tokens are read as a whole if nothing is left after an expression. -/
theorem whole_eq_ok_iff_reads : whole ts = .ok t ↔ Reads (expression maxNesting ts) t [] := by
  cases ts with
  | nil =>
    refine iff_of_false (fun h ↦ by cases h) fun h ↦ ?_
    exact absurd h.1 (Nat.not_lt_zero _)
  | cons u ts =>
    unfold whole
    dsimp only
    cases expression maxNesting (u :: ts) with
    | error e => exact iff_of_false (fun h ↦ by cases h) not_reads_error
    | ok r =>
      obtain ⟨tree, rest, h⟩ := r
      rw [reads_ok]
      cases rest with
      | nil => simp [bind, Except.bind, pure, Except.pure]
      | cons v rest => by_cases hv : v.lexeme = .closeParen <;> simp [bind, Except.bind, hv]

/-- Tokens are read as a whole exactly if their lexemes are an expression. -/
theorem whole_eq_ok_iff :
    whole ts = .ok t ↔ IsExpression maxNesting (ts.map Token.lexeme) t := by
  rw [whole_eq_ok_iff_reads, accepts_expression maxNesting]
  constructor
  · rintro ⟨front, us, rfl, hd, rfl, -⟩
    exact ⟨us, by simpa using hd, rfl⟩
  · rintro ⟨us, hd, rfl⟩
    exact ⟨ts, us, by simp, hd, rfl, by simp [Stops]⟩

end FilterLang.Expression

namespace FilterLang

open Grammar

variable {text : String} {t : Tree}

theorem Tree.parse_eq_ok_iff_whole :
    Tree.parse text = .ok t ↔ Expression.whole (Token.significant (tokenize ∅ text)) = .ok t := by
  unfold Tree.parse
  cases Expression.whole (Token.significant (tokenize ∅ text)) <;> simp

/-- A text is read as a tree exactly if its significant lexemes are an expression with that tree. -/
theorem Tree.parse_eq_ok_iff :
    Tree.parse text = .ok t ↔ IsExpression maxNesting (Lexeme.significant ∅ text.toList) t := by
  rw [parse_eq_ok_iff_whole, Expression.whole_eq_ok_iff, Token.map_lexeme_significant]

/-! ### Conditions of a text -/

theorem Role.reserved_ne_field (w : String) : Role.reserved w ≠ .field := by
  unfold Role.reserved
  cases Operator.ofKeyword? w with
  | some op => simp
  | none =>
    cases Connective.ofWord? w with
    | some c => simp
    | none => cases Modifier.ofWord? w <;> simp

/-- Without a catalog, a lexeme that names a field is a bare word that is not reserved. -/
theorem Lexeme.isFieldName_of_mem {l : Lexeme} {cs : List Char} {w : String}
    (h : l ∈ significant ∅ cs) (hname : l.name? = some w) : IsFieldName w := by
  have hcut := mem_cut_of_mem_significant h
  obtain ⟨r, rfl, hr⟩ := name?_eq_some_iff.1 hname
  obtain ⟨hw, hrole⟩ := of_word_mem_cut hcut
  rw [Role.ofWord_empty] at hrole
  rcases hr with rfl | rfl
  · exact absurd hrole.symm (Role.reserved_ne_field w)
  · exact ⟨hw, (reserved_eq_unknown_iff hw).1 hrole.symm⟩

/-- The value of a lexeme lacks a quote. -/
theorem Lexeme.exists_quote_of_mem {catalog : Catalog} {l : Lexeme} {cs : List Char} {v : String}
    (h : l ∈ significant catalog cs) (hv : l.content? = some v) :
    ∃ q, IsQuote q ∧ q ∉ v.toList := by
  have hcut := mem_cut_of_mem_significant h
  obtain ⟨q, rfl⟩ := content?_eq_some_iff.1 hv
  exact ⟨q, of_quoted_mem_cut hcut⟩

/-- The fields of a tree that was read are bare words that the language does not reserve, and each
value lacks a quote. -/
theorem Tree.leaves_of_parse_eq_ok (h : Tree.parse text = .ok t) :
    ∀ c ∈ t.leaves, IsFieldName c.field ∧ ∃ q, IsQuote q ∧ q ∉ c.value.toList := by
  obtain ⟨ts, hd, rfl⟩ := parse_eq_ok_iff.1 h
  intro c hc
  rw [leaves_ofChain] at hc
  obtain ⟨⟨l, hl, hname⟩, ⟨l', hl', hv⟩⟩ := hd.sources c hc
  exact ⟨Lexeme.isFieldName_of_mem hl hname, Lexeme.exists_quote_of_mem hl' hv⟩

/-- Every group of a tree that was read has two children or more. -/
theorem Tree.everyGroup_of_parse_eq_ok (h : Tree.parse text = .ok t) :
    t.EveryGroup (2 ≤ ·.length) := by
  obtain ⟨ts, hd, rfl⟩ := parse_eq_ok_iff.1 h
  exact everyGroup_ofChain .or hd.ne_nil hd.everyGroup

/-- A text is read as a tree exactly if the grammar derives that tree from the text's significant
tokens, cut without a catalog. Every group of such a tree has two children or more, and every
condition names a bare word that the language does not reserve. -/
theorem Tree.parse_iff_isExpression (text : String) (t : Tree) :
    (Tree.parse text = .ok t ↔
      IsExpression maxNesting ((Token.significant (tokenize ∅ text)).map Token.lexeme) t) ∧
    (Tree.parse text = .ok t →
      t.EveryGroup (2 ≤ ·.length) ∧ ∀ c ∈ t.leaves, IsFieldName c.field) := by
  refine ⟨?_, fun h ↦ ⟨everyGroup_of_parse_eq_ok h, fun c hc ↦ (leaves_of_parse_eq_ok h c hc).1⟩⟩
  rw [parse_eq_ok_iff, Token.map_lexeme_significant]

/-- `AND` binds tighter than `OR`, and neither parentheses nor chains of one operand leave a trace.
-/
example : (Tree.parse "a equals 'x' or (b equals 'y' and ((not c equals 'z')))").toOption =
    some (.group .or [.condition ⟨"a", ⟨.equals, false, false⟩, "x"⟩,
      .group .and [.condition ⟨"b", ⟨.equals, false, false⟩, "y"⟩,
        .condition ⟨"c", ⟨.equals, true, false⟩, "z"⟩]]) := by
  decide +kernel

end FilterLang
