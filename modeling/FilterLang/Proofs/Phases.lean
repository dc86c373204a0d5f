import FilterLang.Proofs.Cutting
import FilterLang.Proofs.Shapes

/-!
# Picking out conditions token by token

The shapes of a text are found by looking ahead from the places where a condition may start. Here
the same is done in one pass without looking ahead. `Phase` says how much of a condition has been
picked out in front of a token, `Phase.next` what the token adds to it, and `Phase.emit` which shape
the token completes; `ofTokens_eq_walk` says that the pass finds the same shapes.

A pass can be cut anywhere (`run_append`), so every token of a shape is found at one phase: its
field where a condition may start, its operator where a field has been picked out, and its value
where an operator has (`exists_field`, `exists_operator`, `exists_value`). And a pass looks at each
token at its own phase only, so tokens can be exchanged for others that do the same there
(`ofTokens_map`).
-/

namespace FilterLang.Check

open Shape

/-- How much of a condition has been picked out. -/
inductive Phase where
  /-- Nothing, and no condition may start. -/
  | idle
  /-- Nothing, and a condition may start. -/
  | start
  | named (field : Token)
  | asked (field operator : Token)
  deriving Repr, DecidableEq

namespace Phase

/-- What has been picked out after one more token. -/
def next (p : Phase) (t : Token) : Phase :=
  if t.opensCondition then start
  else
    match p with
    | idle => idle
    | start =>
      if t.lexeme.modifier?.isSome then start else if t.isPlainWord then named t else idle
    | named field =>
      if t.lexeme.modifier?.isSome then named field
      else if t.isPlainWord then asked field t
      else idle
    | asked _ _ => idle

/-- The shape that is completed by one more token. -/
def emit (p : Phase) (t : Token) : List Shape :=
  match p with
  | idle => []
  | start => []
  | named field =>
    if t.lexeme.modifier?.isSome || t.isPlainWord then [] else [⟨field, none, none⟩]
  | asked field operator => [⟨field, operator, if t.isBoundary then none else t⟩]

/-- The shape that is left at the end of the tokens. -/
def finish : Phase → List Shape
  | idle => []
  | start => []
  | named field => [⟨field, none, none⟩]
  | asked field operator => [⟨field, operator, none⟩]

/-- The shapes that are completed among tokens and at their end. -/
def walk (p : Phase) : List Token → List Shape
  | [] => p.finish
  | t :: ts => p.emit t ++ (p.next t).walk ts

/-- What has been picked out after some tokens. -/
def run (p : Phase) (ts : List Token) : Phase := ts.foldl next p

variable {p : Phase} {s : Shape} {t u field operator value : Token} {ts front back : List Token}

@[simp] theorem run_nil : p.run [] = p := rfl

@[simp] theorem run_cons : p.run (t :: ts) = (p.next t).run ts := rfl

theorem run_append : p.run (front ++ back) = (p.run front).run back := List.foldl_append

theorem run_concat : p.run (front ++ [t]) = (p.run front).next t := by
  rw [run_append, run_cons, run_nil]

/-! ### The same shapes -/

theorem next_of_opensCondition (h : t.opensCondition = true) : p.next t = start := by
  unfold next
  rw [if_pos h]

theorem opensCondition_of_isPlainWord (h : t.isPlainWord = true) : t.opensCondition = false := by
  obtain ⟨⟨w, _ | _ | _ | _ | _⟩ | _ | _ | _ | _ | _ | _ | _, start⟩ := t <;>
    simp_all [Token.isPlainWord, Token.opensCondition, Lexeme.isWord, Lexeme.connective?]

theorem opensCondition_of_modifier? (h : t.lexeme.modifier?.isSome = true) :
    t.opensCondition = false := by
  obtain ⟨⟨w, _ | _ | _ | _ | _⟩ | _ | _ | _ | _ | _ | _ | _, start⟩ := t <;>
    simp_all [Lexeme.modifier?, Token.opensCondition, Lexeme.connective?]

theorem isBoundary_of_opensCondition (h : t.opensCondition = true) : t.isBoundary = true := by
  simp only [Token.opensCondition, Bool.or_eq_true] at h
  simp only [Token.isBoundary, Bool.or_eq_true]
  tauto

theorem next_modifier (hp : p = start ∨ ∃ field, p = named field)
    (ht : t.lexeme.modifier?.isSome = true) : p.next t = p := by
  rcases hp with rfl | ⟨field, rfl⟩ <;> simp [next, opensCondition_of_modifier? ht, ht]

theorem run_modifiers (hp : p = start ∨ ∃ field, p = named field)
    (hts : ∀ t ∈ ts, t.lexeme.modifier?.isSome = true) : p.run ts = p := by
  induction ts with
  | nil => rfl
  | cons t ts ih =>
    obtain ⟨ht, hts⟩ := List.forall_mem_cons.1 hts
    rw [run_cons, next_modifier hp ht, ih hts]

theorem next_start_plain (ht : t.lexeme.modifier?.isSome = false) (hplain : t.isPlainWord = true) :
    start.next t = named t := by
  simp [next, opensCondition_of_isPlainWord hplain, ht, hplain]

theorem next_named_plain (ht : t.lexeme.modifier?.isSome = false) (hplain : t.isPlainWord = true) :
    (named field).next t = asked field t := by
  simp [next, opensCondition_of_isPlainWord hplain, ht, hplain]

/-- Modifiers are passed over where a condition may start and behind its field. -/
theorem walk_afterModifiers (hp : p = start ∨ ∃ field, p = named field) (ts : List Token) :
    p.walk ts = p.walk (afterModifiers ts) := by
  induction ts with
  | nil => rfl
  | cons t ts ih =>
    rw [afterModifiers, List.dropWhile_cons]
    split
    · rename_i ht
      have hemit : p.emit t = [] := by
        rcases hp with rfl | ⟨field, rfl⟩
        · rfl
        · simp [emit, ht]
      rw [walk, hemit, next_modifier hp ht, List.nil_append, ih]
      rfl
    · rfl

/-- What stands behind modifiers is no modifier. -/
theorem modifier?_of_afterModifiers (h : afterModifiers ts = t :: back) :
    t.lexeme.modifier?.isSome = false := by
  have hhead := List.head?_dropWhile_not (fun t : Token ↦ t.lexeme.modifier?.isSome) ts
  rw [afterModifiers] at h
  rw [h] at hhead
  simpa using hhead

theorem walk_asked (field operator : Token) (ts : List Token) :
    (asked field operator).walk ts =
      match ts with
      | value :: rest =>
        if value.isBoundary then ⟨field, operator, none⟩ :: idle.walk ts
        else ⟨field, operator, value⟩ :: idle.walk rest
      | [] => [⟨field, operator, none⟩] := by
  cases ts with
  | nil => rfl
  | cons value rest =>
    have hnext : (asked field operator).next value = idle.next value := by
      unfold next
      split <;> rfl
    rw [walk, hnext, emit]
    by_cases hvalue : value.isBoundary = true
    · simp [hvalue, walk, emit]
    · have hidle : idle.next value = idle := by
        rw [next, if_neg fun h ↦ hvalue (isBoundary_of_opensCondition h)]
      simp [hvalue, hidle]

/-- Behind a field, the pass finds the shape of its condition and goes on where that ends. -/
theorem walk_named (field : Token) (ts : List Token) :
    (named field).walk ts = (ofField field ts).1 :: idle.walk (ofField field ts).2 := by
  rw [walk_afterModifiers (.inr ⟨field, rfl⟩), ofField]
  cases hrest : afterModifiers ts with
  | nil => rfl
  | cons t rest =>
    have ht := modifier?_of_afterModifiers hrest
    dsimp only
    by_cases hplain : t.isPlainWord = true
    · have hemit : (named field).emit t = [] := by simp [emit, hplain]
      rw [walk, hemit, next_named_plain ht hplain, List.nil_append, walk_asked, if_pos hplain]
      cases rest with
      | nil => rfl
      | cons value rest =>
        dsimp only
        split <;> rfl
    · have hnext : (named field).next t = idle.next t := by
        unfold next
        split
        · rfl
        · simp [ht]
      have hemit : (named field).emit t = [⟨field, none, none⟩] := by simp [emit, ht, hplain]
      rw [walk, hemit, hnext, if_neg hplain]
      rfl

/-- The pass without looking ahead finds the shapes that are found by looking ahead. -/
theorem scan_eq_walk (atStart : Bool) (ts : List Token) :
    scan atStart ts = (if atStart then start else idle).walk ts := by
  -- Where the scan has looked ahead, the pass walks over the same tokens with nothing to show.
  fun_induction scan atStart ts with
  | case1 atStart => cases atStart <;> rfl
  | case2 atStart t rest hopens ih =>
    rw [walk, next_of_opensCondition hopens, ih]
    cases atStart <;> rfl
  | case3 t rest hopens hnil =>
    rw [if_pos rfl, walk_afterModifiers (.inl rfl), hnil]
    rfl
  | case4 t rest hopens field rest' hcons hplain ih =>
    have hfield := modifier?_of_afterModifiers hcons
    rw [if_pos rfl, walk_afterModifiers (.inl rfl), hcons, walk,
      next_start_plain hfield hplain, walk_named, ih]
    rfl
  | case5 t rest hopens field rest' hcons hplain ih =>
    have hfield := modifier?_of_afterModifiers hcons
    have hnext : start.next field = idle.next field := by
      unfold next
      simp [hfield, hplain]
    rw [if_pos rfl, walk_afterModifiers (.inl rfl), hcons, walk, hnext, ih]
    rfl
  | case6 atStart t rest hopens hstart ih =>
    have hidle : atStart = false := by simpa using hstart
    have hnext : idle.next t = idle := by
      unfold next
      rw [if_neg hopens]
    rw [hidle, if_neg Bool.false_ne_true, walk, hnext, ih]
    rfl

/-- The shapes of an expression are found in one pass that begins where a condition may start. -/
theorem ofTokens_eq_walk (ts : List Token) : ofTokens ts = start.walk ts :=
  scan_eq_walk true ts

/-! ### Where the tokens of a shape stand -/

/-- Only what follows a field or an operator completes a shape, and it is that of the field. -/
inductive Completes : Phase → Option Token → Shape → Prop
  | named {field : Token} {t : Option Token} : Completes (named field) t ⟨field, none, none⟩
  | asked {field operator : Token} {t : Option Token} :
      Completes (asked field operator) t ⟨field, operator, none⟩
  | valued {field operator value : Token} (hvalue : value.isBoundary = false) :
      Completes (asked field operator) value ⟨field, operator, value⟩

theorem completes_of_mem_emit (h : s ∈ p.emit t) : p.Completes t s := by
  cases p with
  | idle | start => cases h
  | named field =>
    rw [emit] at h
    split at h
    · cases h
    · exact List.mem_singleton.1 h ▸ .named
  | asked field operator =>
    rw [emit, List.mem_singleton] at h
    cases hvalue : t.isBoundary with
    | true => exact h ▸ by rw [hvalue]; exact .asked
    | false => exact h ▸ by rw [hvalue]; exact .valued hvalue

theorem completes_of_mem_finish (h : s ∈ p.finish) : p.Completes none s := by
  cases p with
  | idle | start => cases h
  | named field => exact List.mem_singleton.1 h ▸ .named
  | asked field operator => exact List.mem_singleton.1 h ▸ .asked

/-- Every shape is completed somewhere. -/
theorem completes_of_mem_walk (h : s ∈ p.walk ts) :
    ∃ front back, ts = front ++ back ∧ (p.run front).Completes back.head? s := by
  induction ts generalizing p with
  | nil => exact ⟨[], [], rfl, completes_of_mem_finish h⟩
  | cons t ts ih =>
    rcases List.mem_append.1 h with h | h
    · exact ⟨[], t :: ts, rfl, completes_of_mem_emit h⟩
    · obtain ⟨front, back, rfl, hc⟩ := ih h
      exact ⟨t :: front, back, rfl, hc⟩

theorem next_eq_named (h : p.next t = named field) :
    (p = start ∧ t = field ∧ field.isPlainWord = true ∧ field.lexeme.modifier? = none) ∨
      (p = named field ∧ t.lexeme.modifier?.isSome = true) := by
  unfold next at h
  split at h
  · cases h
  · cases p with
    | idle | asked => cases h
    | start =>
      dsimp only at h
      split at h
      · cases h
      · split at h
        · rename_i hmodifier hplain
          cases h
          exact .inl ⟨rfl, rfl, hplain, by simpa using hmodifier⟩
        · cases h
    | named f =>
      dsimp only at h
      split at h
      · rename_i hmodifier
        exact .inr ⟨h, hmodifier⟩
      · split at h <;> cases h

theorem next_eq_asked (h : p.next t = asked field operator) :
    p = named field ∧ t = operator ∧ operator.isPlainWord = true ∧
      operator.lexeme.modifier? = none := by
  unfold next at h
  split at h
  · cases h
  · cases p with
    | idle | asked => cases h
    | start =>
      dsimp only at h
      split at h
      · cases h
      · split at h <;> cases h
    | named f =>
      dsimp only at h
      split at h
      · cases h
      · split at h
        · rename_i hmodifier hplain
          cases h
          exact ⟨rfl, rfl, hplain, by simpa using hmodifier⟩
        · cases h

/-- A field was found where a condition may start, and only modifiers came after it. -/
theorem exists_of_run_eq_named (h : start.run ts = named field) :
    ∃ front back, ts = front ++ field :: back ∧ start.run front = start ∧
      field.isPlainWord = true ∧ field.lexeme.modifier? = none ∧
      ∀ t ∈ back, t.lexeme.modifier?.isSome = true := by
  induction ts using List.reverseRecOn with
  | nil => cases h
  | append_singleton ts t ih =>
    rw [run_concat] at h
    -- The last token is the field itself, or a modifier behind a field that was found before.
    rcases next_eq_named h with ⟨hstart, rfl, hplain, hmodifier⟩ | ⟨hnamed, ht⟩
    · exact ⟨ts, [], rfl, hstart, hplain, hmodifier, by simp⟩
    · obtain ⟨front, back, rfl, hstart, hplain, hmodifier, hback⟩ := ih hnamed
      refine ⟨front, back ++ [t], by simp, hstart, hplain, hmodifier, fun u hu ↦ ?_⟩
      rcases List.mem_append.1 hu with hu | hu
      · exact hback u hu
      · exact List.mem_singleton.1 hu ▸ ht

/-- An operator was found behind a field, right in front. -/
theorem exists_of_run_eq_asked (h : start.run ts = asked field operator) :
    ∃ front, ts = front ++ [operator] ∧ start.run front = named field ∧
      operator.isPlainWord = true ∧ operator.lexeme.modifier? = none := by
  rcases List.eq_nil_or_concat ts with rfl | ⟨front, t, rfl⟩
  · cases h
  · rw [List.concat_eq_append] at h ⊢
    rw [run_concat] at h
    obtain ⟨hnamed, rfl, hplain, hmodifier⟩ := next_eq_asked h
    exact ⟨front, rfl, hnamed, hplain, hmodifier⟩

/-- The field of a shape stands where a condition may start. -/
theorem exists_field (h : s ∈ ofTokens ts) : ∃ front back, ts = front ++ s.field :: back ∧
    start.run front = start ∧ s.field.isPlainWord = true ∧ s.field.lexeme.modifier? = none := by
  rw [ofTokens_eq_walk] at h
  obtain ⟨front, back, rfl, hc⟩ := completes_of_mem_walk h
  have hnamed {ts : List Token} {field : Token} (h : start.run ts = named field)
      (more : List Token) :
      ∃ front back, ts ++ more = front ++ field :: back ∧ start.run front = start ∧
        field.isPlainWord = true ∧ field.lexeme.modifier? = none := by
    obtain ⟨front, back, rfl, hstart, hplain, hmodifier, -⟩ := exists_of_run_eq_named h
    exact ⟨front, back ++ more, by simp, hstart, hplain, hmodifier⟩
  generalize hp : start.run front = p at hc
  generalize back.head? = next at hc
  cases hc with
  | named => exact hnamed hp back
  | asked | valued =>
    obtain ⟨front, rfl, hp, -, -⟩ := exists_of_run_eq_asked hp
    rw [List.append_assoc]
    exact hnamed hp _

/-- The operator of a shape stands where its field has been picked out. -/
theorem exists_operator (h : s ∈ ofTokens ts) (ht : s.operator = some t) :
    ∃ front back, ts = front ++ t :: back ∧ start.run front = named s.field ∧
      t.isPlainWord = true ∧ t.lexeme.modifier? = none := by
  rw [ofTokens_eq_walk] at h
  obtain ⟨front, back, rfl, hc⟩ := completes_of_mem_walk h
  generalize hp : start.run front = p at hc
  generalize back.head? = next at hc
  cases hc with
  | named => cases ht
  | asked | valued =>
    cases ht
    obtain ⟨front, rfl, hp, hplain, hmodifier⟩ := exists_of_run_eq_asked hp
    exact ⟨front, back, by simp, hp, hplain, hmodifier⟩

/-- The value of a shape stands right behind its operator. -/
theorem exists_value (h : s ∈ ofTokens ts) (ht : s.value = some t) :
    ∃ front back operator, ts = front ++ t :: back ∧ s.operator = some operator ∧
      start.run front = asked s.field operator ∧ t.isBoundary = false := by
  rw [ofTokens_eq_walk] at h
  obtain ⟨front, back, rfl, hc⟩ := completes_of_mem_walk h
  generalize hp : start.run front = p at hc
  generalize hnext : back.head? = next at hc
  cases hc with
  | named | asked => cases ht
  | valued hvalue =>
    cases ht
    obtain ⟨back, rfl⟩ := List.head?_eq_some_iff.1 hnext
    exact ⟨front, back, _, rfl, rfl, hp, hvalue⟩

/-- The tokens of a shape are among those that it was found in. -/
theorem field_mem (h : s ∈ ofTokens ts) : s.field ∈ ts := by
  obtain ⟨front, back, rfl, -⟩ := exists_field h
  simp

theorem operator_mem (h : s ∈ ofTokens ts) (ht : s.operator = some t) : t ∈ ts := by
  obtain ⟨front, back, rfl, -⟩ := exists_operator h ht
  simp

theorem value_mem (h : s ∈ ofTokens ts) (ht : s.value = some t) : t ∈ ts := by
  obtain ⟨front, back, -, rfl, -⟩ := exists_value h ht
  simp

/-! ### Exchanging tokens -/

/-- What has been picked out, with other tokens in its place. -/
def map (f : Token → Token) : Phase → Phase
  | idle => idle
  | start => start
  | named field => named (f field)
  | asked field operator => asked (f field) (f operator)

end Phase

/-- A shape with other tokens in its place. -/
def Shape.map (f : Token → Token) (s : Shape) : Shape :=
  ⟨f s.field, s.operator.map f, s.value.map f⟩

namespace Phase

variable {f : Token → Token} {p : Phase} {t field operator : Token} {ts : List Token}

/-- Whether a token and the one in its place do the same at a phase. -/
structure Agrees (f : Token → Token) (p : Phase) (t : Token) : Prop where
  next : (p.map f).next (f t) = (p.next t).map f
  emit : (p.map f).emit (f t) = (p.emit t).map (Shape.map f)

theorem run_map (h : ∀ front t back, ts = front ++ t :: back → Agrees f (p.run front) t) :
    (p.map f).run (ts.map f) = (p.run ts).map f := by
  induction ts generalizing p with
  | nil => rfl
  | cons t ts ih =>
    obtain ⟨hnext, -⟩ : Agrees f p t := h [] t ts rfl
    have hts := ih fun front u back hu ↦ h (t :: front) u back (by rw [hu]; rfl)
    rw [List.map_cons, run_cons, run_cons, hnext, hts]

theorem walk_map (h : ∀ front t back, ts = front ++ t :: back → Agrees f (p.run front) t) :
    (p.map f).walk (ts.map f) = (p.walk ts).map (Shape.map f) := by
  induction ts generalizing p with
  | nil => cases p <;> rfl
  | cons t ts ih =>
    obtain ⟨hnext, hemit⟩ : Agrees f p t := h [] t ts rfl
    have hts := ih fun front u back hu ↦ h (t :: front) u back (by rw [hu]; rfl)
    rw [List.map_cons, walk, walk, hnext, hemit, List.map_append, hts]

/-- If every token is exchanged for one that does the same where it stands, the shapes keep their
tokens. -/
theorem ofTokens_map
    (h : ∀ front t back, ts = front ++ t :: back → Agrees f (start.run front) t) :
    ofTokens (ts.map f) = (ofTokens ts).map (Shape.map f) := by
  rw [ofTokens_eq_walk, ofTokens_eq_walk, ← walk_map h]
  rfl

/-- Tokens that cannot be told apart in a pass do the same everywhere. -/
theorem agrees_of_eq (hopens : (f t).opensCondition = t.opensCondition)
    (hplain : (f t).isPlainWord = t.isPlainWord) (hboundary : (f t).isBoundary = t.isBoundary)
    (hmodifier : (f t).lexeme.modifier? = t.lexeme.modifier?) (p : Phase) : Agrees f p t := by
  constructor
  · cases p <;> simp only [next, map, hopens, hplain, hmodifier] <;> split_ifs <;> rfl
  · cases p with
    | idle | start => rfl
    | named field => simp only [emit, map, hplain, hmodifier]; split_ifs <;> rfl
    | asked field operator => simp only [emit, map, hboundary]; split_ifs <;> rfl

theorem agrees_of_lexeme_eq (h : (f t).lexeme = t.lexeme) (p : Phase) : Agrees f p t :=
  agrees_of_eq (by simp [Token.opensCondition, h]) (by simp [Token.isPlainWord, h])
    (by simp [Token.isBoundary, h]) (by rw [h]) p

/-- Where a field or an operator is picked out, any two plain words do the same. -/
theorem agrees_of_isPlainWord (ht : t.isPlainWord = true) (hmodifier : t.lexeme.modifier? = none)
    (hft : (f t).isPlainWord = true) (hfmodifier : (f t).lexeme.modifier? = none)
    (hp : p = start ∨ ∃ field, p = named field) : Agrees f p t := by
  have hopens := opensCondition_of_isPlainWord ht
  have hfopens := opensCondition_of_isPlainWord hft
  rcases hp with rfl | ⟨field, rfl⟩ <;> constructor <;>
    simp [next, emit, map, hopens, hfopens, ht, hft, hmodifier, hfmodifier]

/-- Where a value is picked out, any two tokens do the same that do not end the condition. -/
theorem agrees_of_isBoundary (ht : t.isBoundary = false) (hft : (f t).isBoundary = false)
    (hp : p = asked field operator) : Agrees f p t := by
  have hopens (u : Token) (hu : u.isBoundary = false) : u.opensCondition = false := by
    by_contra h
    simp [isBoundary_of_opensCondition (by simpa using h)] at hu
  subst hp
  constructor <;>
    simp [next, emit, map, hopens t ht, hopens _ hft, ht, hft, Shape.map]

end Phase

end FilterLang.Check
