import FilterLang.Proofs.Blame
import FilterLang.Proofs.Phases

/-!
# Where readers and checks agree on what is expected

The checks pick out conditions without a tree (`Check.Phase`), and the reader of trees follows the
grammar until it is stuck. Up to the token that it is stuck at, the two go together: where the
reader misses a field, a condition may start, where it misses an operator, a field has been picked
out, and where it misses a value, an operator has (`misfits_whole`). So the reader never blames a
token for not being what the checks did not look for in that place.

All faults of this kind are found in a condition. Outside of conditions the induction only carries
along that one starts after a connective or an opening parenthesis.
-/

namespace FilterLang

/-- Whether a fault is that a token is not the field, the operator or the value which is expected in
its place. -/
def ParseFault.IsMisfit : ParseFault → Prop
  | valueBeforeField => True
  | notAField _ => True
  | unknownOperator _ _ => True
  | unquotedValue _ => True
  | _ => False

namespace Expression

open Grammar Check Check.Phase

variable {e : Refusal} {t : Token} {ts mid front : List Token}

/-- Whether a token is not what is expected of it after what has been picked out. -/
inductive Misfits : Phase → Token → Prop
  | field {t : Token} (h : t.lexeme.name? = none) : Misfits start t
  | operator {field t : Token} (h : t.lexeme.operator? = none) : Misfits (named field) t
  | value {field operator t : Token} (h : t.lexeme.isWord = true) :
      Misfits (asked field operator) t

/-- Whether a refusal blames one of some tokens that a misfit is among, where a condition may start
at the first of them. -/
def BlamesMisfit (e : Refusal) (ts : List Token) : Prop :=
  ∃ front t back, ts = front ++ t :: back ∧ e.token = some t ∧ Misfits (start.run front) t

theorem BlamesMisfit.append (h : BlamesMisfit e mid) (hfront : start.run front = start) :
    BlamesMisfit e (front ++ mid) := by
  obtain ⟨front', t, back, rfl, ht, hm⟩ := h
  exact ⟨front ++ front', t, back, by simp, ht, by rwa [run_append, hfront]⟩

/-! ### Conditions -/

theorem not_isMisfit_of_modifiers {f : Flags} (h : modifiers f ts = .error e) :
    ¬ e.fault.IsMisfit := by
  obtain ⟨m, t, rfl⟩ := modifiers_eq_error h
  exact id

theorem misfits_field (h : field ts = .error e) (he : e.fault.IsMisfit) :
    ∃ t back, ts = t :: back ∧ e.token = some t ∧ t.lexeme.name? = none := by
  cases ts with
  | nil =>
    cases h
    exact he.elim
  | cons t ts =>
    refine ⟨t, ts, rfl, ?_⟩
    rcases t with ⟨⟨v, _ | _ | _ | _ | _⟩ | _ | _ | _ | _ | _ | _ | _, start⟩ <;> cases h <;>
      exact ⟨rfl, rfl⟩

theorem misfits_operator {name : String} {f : Flags} (h : operator name f ts = .error e)
    (he : e.fault.IsMisfit) :
    ∃ t back, ts = t :: back ∧ e.token = some t ∧ t.lexeme.operator? = none := by
  cases ts with
  | nil =>
    cases h
    exact he.elim
  | cons t ts =>
    refine ⟨t, ts, rfl, (operator_cons_eq_error h).1, ?_⟩
    cases hop : t.lexeme.operator? with
    | none => rfl
    | some op =>
      -- An operator is refused only if it repeats a modifier.
      obtain ⟨m, rfl⟩ := operator_eq_error_of_operator? hop h
      exact he.elim

theorem misfits_value {k : Comparison} (h : value k ts = .error e) (he : e.fault.IsMisfit) :
    ∃ t back, ts = t :: back ∧ e.token = some t ∧ t.lexeme.isWord = true := by
  cases ts with
  | nil =>
    cases h
    exact he.elim
  | cons t ts =>
    refine ⟨t, ts, rfl, ?_⟩
    rcases t with ⟨_ | _ | _ | _ | _ | _ | _, start⟩ <;> cases h <;>
      first | exact ⟨rfl, rfl⟩ | exact he.elim

/-- A misfit in a condition stands where the checks have picked out what is in front of it. -/
theorem misfits_condition (hcondition : condition ts = .error e) (he : e.fault.IsMisfit) :
    BlamesMisfit e ts := by
  have hnil : Flags.none = .ofList [] := rfl
  rcases condition_eq_error_iff.1 hcondition with h | ⟨f₁, ts₁, h₁, h⟩
  · exact absurd he (not_isMisfit_of_modifiers h)
  rw [hnil] at h₁
  obtain ⟨before, ms, rfl, hms, hnodup, rfl, -⟩ := (reads_modifiers .nil).1 h₁
  rw [List.nil_append] at hnodup
  have hbefore : start.run before = start := run_modifiers (.inl rfl) fun t ht ↦
    isSome_modifier?_of_mem hms (List.mem_map_of_mem ht)
  refine BlamesMisfit.append ?_ hbefore
  rcases h with h | ⟨name, ts₂, h₂, h⟩
  · obtain ⟨t, back, rfl, ht, hname⟩ := misfits_field h he
    exact ⟨[], t, back, rfl, ht, .field hname⟩
  obtain ⟨tn, rfl, hname⟩ := reads_field.1 h₂
  have hnamed : start.next tn = named tn := next_start_plain
    (by rw [modifier?_eq_none_of_name? hname]; rfl) (Shape.isPlainWord_of_name? hname)
  rcases h with h | ⟨f₂, ts₃, h₃, h⟩
  · exact absurd he (not_isMisfit_of_modifiers h)
  obtain ⟨after, ns, rfl, hns, hnodup', rfl, -⟩ := (reads_modifiers hnodup).1 h₃
  have hafter : (start.next tn).run after = named tn := by
    rw [hnamed]
    exact run_modifiers (.inr ⟨tn, rfl⟩) fun t ht ↦
      isSome_modifier?_of_mem hns (List.mem_map_of_mem ht)
  rcases h with h | ⟨⟨k, f₃⟩, ts₄, h₄, h⟩
  · obtain ⟨t, back, rfl, ht, hop⟩ := misfits_operator h he
    exact ⟨tn :: after, t, back, rfl, ht, by rw [run_cons, hafter]; exact .operator hop⟩
  obtain ⟨tok, op, rfl, hop, -⟩ := (reads_operator hnodup').1 h₄
  obtain ⟨t, back, rfl, ht, hword⟩ := misfits_value h he
  have hasked : (named tn).next tok = asked tn tok := next_named_plain
    (by rw [modifier?_eq_none_of_operator? hop]; rfl) (Shape.isPlainWord_of_operator? hop)
  refine ⟨tn :: (after ++ [tok]), t, back, by simp, ht, ?_⟩
  rw [run_cons, run_append, hafter, run_cons, run_nil, hasked]
  exact .value hword

/-! ### Expressions -/

/-- A condition may start after all that is in front of the refused one. -/
theorem Arises.blamesMisfit (h : Arises e ts) (he : e.fault.IsMisfit) : BlamesMisfit e ts := by
  induction h with
  | condition h => exact misfits_condition h he
  | nothing he' | nested _ he' | empty _ he' | missing _ _ _ he' =>
    rw [he'] at he
    exact he.elim
  | @enclosed t _ ht _ ih =>
    have hopens : t.opensCondition = true := by simp [Token.opensCondition, ht]
    rw [← List.singleton_append]
    refine ih.append ?_
    rw [run_cons, run_nil, next_of_opensCondition hopens]
  | @joined t _ front ht _ ih =>
    obtain ⟨k, hk⟩ := Option.isSome_iff_exists.1 ht
    rw [List.append_cons]
    refine ih.append ?_
    rw [run_concat, next_of_opensCondition (Shape.opensCondition_of_connective? hk)]

/-- A token that is blamed for not being the field, the operator or the value that is expected is
where the checks expect one, too. -/
theorem misfits_whole (h : whole ts = .error e) (he : e.fault.IsMisfit) : BlamesMisfit e ts := by
  by_cases hts : ts = []
  · subst hts
    cases h
    exact he.elim
  · rcases (whole_eq_error_iff hts).1 h with h | ⟨tree, rest, -, t, us, -, rfl⟩
    · exact (arises_of_expression (Nat.le_refl _) h).blamesMisfit he
    · split at he <;> exact he.elim

end Expression

end FilterLang
