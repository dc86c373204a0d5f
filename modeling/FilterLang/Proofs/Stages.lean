import FilterLang.Proofs.Cutting
import FilterLang.Proofs.Grammar

/-!
# The stages of an expression

Reading an expression from left to right, one is always at one of a few stages: a condition is due,
its field has been named, its value is due, and so on. `Stage.next` says which lexemes can stand at
a stage and what stage comes after them. Parentheses are looked at one by one and not counted, so
not every walk through the stages is along an expression, but the lexemes of an expression lead from
the first stage to the last (`Derives.run`), with as many closing parentheses as opening ones
(`Derives.count_parens`).

What makes the stages useful is that they can be followed through a part of an expression, where the
grammar says nothing. A walk can come to a value at one stage only (`Stage.eq_compared`), and before
it has passed a value it meets no closing parenthesis (`Stage.closeParen_notMem`).
-/

namespace FilterLang.Grammar

/-! ### Stages -/

/-- How far an expression has been read. -/
inductive Stage where
  /-- A condition is due or a parenthesis. The condition already has some modifiers. -/
  | due (ms : List Modifier)
  /-- The field of a condition has been named, and the condition has some modifiers. -/
  | named (ms : List Modifier)
  /-- The operator of a condition has been named, and its value is due. -/
  | compared
  /-- The value of a condition has begun and has no closing quote. -/
  | inside
  /-- A condition is complete. -/
  | complete
  deriving Repr, DecidableEq

namespace Stage

/-- The stage after one more lexeme, if the lexeme can stand there. No modifier may stand twice in a
condition. -/
def next : Stage → Lexeme → Option Stage
  | due ms, l =>
    match l.modifier? with
    | some m => if m ∈ ms then none else some (due (ms ++ [m]))
    | none =>
      if l.name?.isSome then some (named ms)
      else if l = .openParen ∧ ms = [] then some (due [])
      else none
  | named ms, l =>
    match l.modifier?, l.operator? with
    | some m, _ => if m ∈ ms then none else some (named (ms ++ [m]))
    | none, some op => if (ms ++ op.modifiers).Nodup then some compared else none
    | none, none => none
  | compared, l =>
    if l.content?.isSome then some complete
    else if l.isUnclosed then some inside
    else none
  | inside, _ => none
  | complete, l =>
    if l.connective?.isSome then some (due [])
    else if l = .closeParen then some complete
    else none

/-- The stage after some lexemes, if each can stand where it does. -/
def run (s : Stage) (ls : List Lexeme) : Option Stage := ls.foldlM next s

variable {s s' e : Stage} {l : Lexeme} {ls ls' : List Lexeme} {ms ns : List Modifier}

theorem run_nil (s : Stage) : s.run [] = some s := rfl

theorem run_cons : s.run (l :: ls) = (s.next l).bind (run · ls) := rfl

theorem run_append : s.run (ls ++ ls') = (s.run ls).bind (run · ls') := by
  unfold run
  rw [List.foldlM_append]
  rfl

theorem run_append_eq_some (h : s.run (ls ++ ls') = some e) :
    ∃ m, s.run ls = some m ∧ m.run ls' = some e := by
  rw [run_append] at h
  exact Option.bind_eq_some_iff.1 h

theorem run_cons_eq_some (h : s.run (l :: ls) = some e) :
    ∃ m, s.next l = some m ∧ m.run ls = some e := by
  rw [run_cons] at h
  exact Option.bind_eq_some_iff.1 h

/-- Whether the value of the next condition is still to come. -/
def IsEarly : Stage → Prop
  | due _ => True
  | named _ => True
  | compared => True
  | inside => False
  | complete => False

/-! ### Steps -/

theorem next_modifier {st : List Modifier → Stage} (hst : st = due ∨ st = named) {m : Modifier}
    (hl : l.modifier? = some m) :
    (st ms).next l = if m ∈ ms then none else some (st (ms ++ [m])) := by
  rcases hst with rfl | rfl <;> simp [next, hl]

/-- An operator comes after a field. -/
theorem exists_named {op : Operator} (h : s.next l = some s') (hl : l.operator? = some op) :
    s' = compared ∧ ∃ ms, s = named ms := by
  obtain ⟨w, rfl⟩ := Lexeme.operator?_eq_some_iff.1 hl
  cases s <;>
    simp [next, Lexeme.modifier?, Lexeme.name?, Lexeme.operator?, Lexeme.content?,
      Lexeme.isUnclosed, Lexeme.connective?] at h
  exact ⟨h.2.symm, _, rfl⟩

/-- A modifier comes after a field if the field has been named behind it. -/
theorem exists_named_of_modifier {m : Modifier} (h : s.next l = some (named ns))
    (hl : l.modifier? = some m) : ∃ ms, s = named ms := by
  obtain ⟨w, rfl⟩ := Lexeme.modifier?_eq_some_iff.1 hl
  cases s <;>
    simp [next, Lexeme.modifier?, Lexeme.content?, Lexeme.isUnclosed, Lexeme.connective?] at h
  exact ⟨_, rfl⟩

/-- A value comes after an operator. -/
theorem eq_compared (h : s.next l = some s') (hl : l.kind = .value) : s = compared := by
  rcases Lexeme.kind_eq_value_iff.1 hl with ⟨q, v, rfl⟩ | ⟨q, v, rfl⟩ <;> cases s <;>
    simp_all [next, Lexeme.modifier?, Lexeme.name?, Lexeme.operator?, Lexeme.connective?]

/-- A closing parenthesis comes after a condition. -/
theorem eq_complete (h : s.next .closeParen = some s') : s = complete := by
  cases s <;>
    simp_all [next, Lexeme.modifier?, Lexeme.name?, Lexeme.operator?, Lexeme.content?,
      Lexeme.isUnclosed]

/-- Without a value, no condition is completed. -/
theorem isEarly_next (h : s.next l = some s') (hs : s.IsEarly) (hl : l.kind ≠ .value) :
    s'.IsEarly := by
  cases s with
  | due ms =>
    simp only [next] at h
    split at h
    · simp only [Option.ite_none_left_eq_some, Option.some.injEq] at h
      exact h.2 ▸ trivial
    · split at h
      · exact Option.some.inj h ▸ trivial
      · simp only [Option.ite_none_right_eq_some, Option.some.injEq] at h
        exact h.2 ▸ trivial
  | named ms =>
    simp only [next] at h
    split at h
    · simp only [Option.ite_none_left_eq_some, Option.some.injEq] at h
      exact h.2 ▸ trivial
    · simp only [Option.ite_none_right_eq_some, Option.some.injEq] at h
      exact h.2 ▸ trivial
    · simp at h
  | compared =>
    rw [ne_eq, Lexeme.kind_eq_value_iff] at hl
    cases l <;> simp_all [next, Lexeme.content?, Lexeme.isUnclosed]
  | inside | complete => exact hs.elim

/-- Without a value, no parenthesis is closed. -/
theorem closeParen_notMem (h : s.run ls = some e) (hs : s.IsEarly)
    (hls : ∀ l ∈ ls, l.kind ≠ .value) : .closeParen ∉ ls := by
  induction ls generalizing s with
  | nil => simp
  | cons l ls ih =>
    obtain ⟨hl, hls⟩ := List.forall_mem_cons.1 hls
    obtain ⟨m, hm, hrun⟩ := run_cons_eq_some h
    rw [List.mem_cons, not_or]
    refine ⟨?_, ih hrun (isEarly_next hm hs hl) hls⟩
    rintro rfl
    rw [eq_complete hm] at hs
    exact hs

/-- Modifiers and an operator come after a field, and behind them a value is due. -/
theorem run_operator {op : Lexeme} (hls : ∀ l ∈ ls, l.modifier?.isSome = true)
    (hop : op.operator?.isSome = true) (h : s.run (ls ++ op :: ls') = some e) :
    (∃ ms, s = named ms) ∧ s.run (ls ++ [op]) = some compared ∧ compared.run ls' = some e := by
  induction ls generalizing s with
  | nil =>
    obtain ⟨o, ho⟩ := Option.isSome_iff_exists.1 hop
    obtain ⟨m, hm, hrun⟩ := run_cons_eq_some h
    obtain ⟨rfl, hs⟩ := exists_named hm ho
    exact ⟨hs, by rw [List.nil_append, run_cons, hm]; rfl, hrun⟩
  | cons l ls ih =>
    obtain ⟨hl, hls⟩ := List.forall_mem_cons.1 hls
    obtain ⟨m, hm⟩ := Option.isSome_iff_exists.1 hl
    obtain ⟨s', hs', hrun⟩ := run_cons_eq_some h
    obtain ⟨⟨ms, rfl⟩, hcompared, hrest⟩ := ih hls hrun
    refine ⟨exists_named_of_modifier hs' hm, ?_, hrest⟩
    rw [List.cons_append, run_cons, hs']
    exact hcompared

/-! ### Walks along phrases -/

/-- Modifiers that do not repeat are collected. -/
theorem run_modifiers {st : List Modifier → Stage} (hst : st = due ∨ st = named)
    (hls : ls.map Lexeme.modifier? = ns.map some) (hms : (ms ++ ns).Nodup) :
    (st ms).run ls = some (st (ms ++ ns)) := by
  induction ns generalizing ls ms with
  | nil =>
    rw [List.map_nil, List.map_eq_nil_iff] at hls
    rw [hls, run_nil, List.append_nil]
  | cons n ns ih =>
    obtain ⟨l, ls, rfl, hl, hls⟩ := List.map_eq_cons_iff.1 hls
    have hn : n ∉ ms := fun hn ↦
      (List.nodup_append.1 hms).2.2 n hn n List.mem_cons_self rfl
    have hsplit : ms ++ n :: ns = ms ++ [n] ++ ns := by simp
    rw [hsplit] at hms
    rw [run_cons, next_modifier hst hl, if_neg hn, Option.bind_some, ih hls hms, hsplit]

end Stage

open Stage

variable {n : Nat} {p : Phrase} {ls : List Lexeme} {c : Condition} {ts : List Tree}

/-- The lexemes of a condition lead from its beginning to its end. -/
theorem IsCondition.run (h : IsCondition ls c) : (due []).run ls = some complete := by
  obtain @⟨before, after, ms, ns, name, operator, value, _, _, op, hbefore, hname, hafter, hop,
    hvalue, hms⟩ := h
  have hfront : (due []).run before = some (due ms) :=
    run_modifiers (.inl rfl) hbefore (List.nodup_append.1 (List.nodup_append.1 hms).1).1
  have hname' : (due ms).next name = some (named ms) := by
    simp [next, modifier?_eq_none_of_name? hname, hname]
  have hback : (named ms).run after = some (named (ms ++ ns)) :=
    run_modifiers (.inr rfl) hafter (List.nodup_append.1 hms).1
  have hop' : (named (ms ++ ns)).next operator = some compared := by
    simp only [next, modifier?_eq_none_of_operator? hop, hop]
    rw [if_pos hms]
  have hvalue' : compared.next value = some complete := by simp [next, hvalue]
  rw [run_append, hfront, Option.bind_some, run_cons, hname', Option.bind_some, run_append, hback,
    Option.bind_some, run_cons, hop', Option.bind_some, run_cons, hvalue']
  rfl

/-- The lexemes of a phrase lead from its beginning to its end. -/
theorem Derives.run (h : Derives n p ls ts) : (due []).run ls = some complete := by
  induction h with
  | condition h => exact h.run
  | parentheses _ ih =>
    have hopen : (due []).next .openParen = some (due []) := rfl
    have hclose : complete.next .closeParen = some complete := rfl
    rw [run_cons, hopen, Option.bind_some, run_append, ih, Option.bind_some, run_cons, hclose]
    rfl
  | single _ ih => exact ih
  | @joined _ _ l _ _ _ _ _ hl _ ih ih' =>
    have hjoin : complete.next l = some (due []) := by simp [next, hl]
    rw [run_append, ih, Option.bind_some, run_cons, hjoin, Option.bind_some, ih']

/-- A phrase closes the parentheses that it opens. -/
theorem Derives.count_parens (h : Derives n p ls ts) :
    ls.count .openParen = ls.count .closeParen := by
  induction h with
  | condition h =>
    rw [List.count_eq_zero_of_not_mem fun hl ↦ (h.isPart _ hl).ne_paren.1 rfl,
      List.count_eq_zero_of_not_mem fun hl ↦ (h.isPart _ hl).ne_paren.2 rfl]
  | parentheses _ ih => simp [ih]
  | single _ ih => exact ih
  | joined _ hl _ ih ih' =>
    obtain ⟨hopen, hclose⟩ := ne_paren_of_connective? hl
    simp [ih, ih', hopen, hclose]

end FilterLang.Grammar
