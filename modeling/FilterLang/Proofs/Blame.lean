import FilterLang.Proofs.Beginning

/-!
# Which token is blamed

A refusal blames a token, and everything in front of that token was in order: it can be completed to
an expression. With the blamed token it cannot be, whatever follows. So an error stands at the first
token that is impossible where it is, and an error at the end says that the text breaks off
(`Tree.parse_error_offset`). Only the two faults of a pair of parentheses are found after the token
they blame, which is the opening one.

`Localised e Good Refused ts` is what each reader proves of its refusals: the tokens in front of the
blamed one are good, and they are refused in the same way with any other tokens after it. Readers
that go on after one another are localised one by one (`Localised.then`). What makes this work is
that no reader looks further than one token beyond what it reads, so a reader that has succeeded
does so again where only tokens after that one are exchanged.

Where only the cause of a refusal matters, `Arises` lists the causes there are, and what has been
read in front of each (`Expression.arises_of_expression`).
-/

namespace FilterLang

/-- Whether a fault is one of a pair of parentheses, which is blamed on the opening one. -/
def ParseFault.BlamesOpening (f : ParseFault) : Prop := f = .missingClosing ∨ f = .emptyParentheses

instance (f : ParseFault) : Decidable f.BlamesOpening := inferInstanceAs (Decidable (_ ∨ _))

namespace Expression

open Grammar

/-! ### Blame -/

/-- What the refusal `e` says of the tokens in front of the blamed one and of those from it on.
`Good` is what can be completed, and `Refused` says which tokens are refused with `e`. -/
structure Blames (e : Refusal) (Good : List Lexeme → Prop) (Refused : List Token → Prop)
    (front tail : List Token) : Prop where
  token : e.token = tail.head?
  fault : e.fault ≠ .emptyExpression
  good : Good (front.map Token.lexeme)
  opening : e.fault.BlamesOpening → ∃ t ∈ tail.head?, t.lexeme = .openParen
  again : ¬ e.fault.BlamesOpening → ∀ t ∈ tail.head?, ∀ rest, Refused (front ++ t :: rest)

/-- Whether the refusal `e` tells good tokens in front of it apart from what is wrong. -/
def Localised (e : Refusal) (Good : List Lexeme → Prop) (Refused : List Token → Prop)
    (ts : List Token) : Prop :=
  ∃ front tail, ts = front ++ tail ∧ Blames e Good Refused front tail

variable {e : Refusal} {Good Good' : List Lexeme → Prop} {Refused Refused' : List Token → Prop}
  {ts mid rest : List Token} {t : Token}

/-- A refusal of what follows other tokens. That the exchanged tokens start with the same one is
known where they are refused. -/
theorem Localised.append (front : List Token) (h : Localised e Good Refused mid)
    (hgood : ∀ ls, Good ls → Good' (front.map Token.lexeme ++ ls))
    (hrefused : ∀ ts, ts.head? = mid.head? → Refused ts → Refused' (front ++ ts)) :
    Localised e Good' Refused' (front ++ mid) := by
  obtain ⟨middle, tail, rfl, hb⟩ := h
  refine ⟨front ++ middle, tail, by simp, hb.token, hb.fault, ?_, hb.opening, ?_⟩
  · rw [List.map_append]
    exact hgood _ hb.good
  · intro hlocal t ht rest
    rw [List.append_assoc]
    refine hrefused _ ?_ (hb.again hlocal t ht rest)
    cases middle with
    | nil => exact ht.symm
    | cons => rfl

theorem Localised.mono (h : Localised e Good Refused ts) (hgood : ∀ ls, Good ls → Good' ls)
    (hrefused : ∀ us, us.head? = ts.head? → Refused us → Refused' us) :
    Localised e Good' Refused' ts :=
  h.append [] hgood hrefused

/-- A refusal of the first token, or of there being none. -/
theorem localised_head (htoken : e.token = ts.head?) (hfault : e.fault ≠ .emptyExpression)
    (hlocal : ¬ e.fault.BlamesOpening) (hgood : Good [])
    (hagain : ∀ t ∈ ts.head?, ∀ rest, Refused (t :: rest)) : Localised e Good Refused ts :=
  ⟨[], ts, rfl, htoken, hfault, hgood, fun h ↦ absurd h hlocal, fun _ ↦ hagain⟩

section Then

variable {α β : Type} {p : List Token → List Token → Prop} {q : List Token → Prop}

/-- Whether tokens are refused with `e` by a reader, or by what goes on after it has succeeded. -/
def RefusesThen (e : Refusal)
    (R : (ts : List Token) → Except Refusal (α × { rest : List Token // p ts rest }))
    (next : α → List Token → Prop) (ts : List Token) : Prop :=
  R ts = .error e ∨ ∃ a mid, Reads (R ts) a mid ∧ next a mid

theorem bind_eq_error_iff
    {R : (ts : List Token) → Except Refusal (α × { rest : List Token // p ts rest })}
    {g : α × { rest : List Token // p ts rest } → Except Refusal β}
    {next : α → List Token → Prop} (hnext : ∀ a mid h, g (a, ⟨mid, h⟩) = .error e ↔ next a mid) :
    R ts >>= g = .error e ↔ RefusesThen e R next ts := by
  unfold RefusesThen
  cases R ts with
  | error e' => simp [bind, Except.bind, not_reads_error]
  | ok r =>
    obtain ⟨a, mid, h⟩ := r
    have hbind : (Except.ok (a, ⟨mid, h⟩) >>= g) = g (a, ⟨mid, h⟩) := rfl
    rw [hbind, hnext]
    constructor
    · exact fun hn ↦ .inr ⟨a, mid, ⟨h, rfl⟩, hn⟩
    · rintro (he | ⟨a', mid', hr, hn⟩)
      · cases he
      · obtain ⟨rfl, rfl⟩ := reads_ok.1 hr
        exact hn

/-- What is never refused after a reader adds no refusals. -/
theorem bind_eq_error_iff_of_ne
    {R : (ts : List Token) → Except Refusal (α × { rest : List Token // p ts rest })}
    {g : α × { rest : List Token // p ts rest } → Except Refusal β}
    (hne : ∀ a mid h, g (a, ⟨mid, h⟩) ≠ .error e) : R ts >>= g = .error e ↔ R ts = .error e := by
  have hnext (a : α) (mid : List Token) (h : p ts mid) : g (a, ⟨mid, h⟩) = .error e ↔ False :=
    iff_of_false (hne a mid h) id
  rw [bind_eq_error_iff hnext]
  simp [RefusesThen]

/-- Refusals are localised if those of the first reader are, and those of what goes on after it. The
first reader must succeed again where only what follows the next token is exchanged. -/
theorem Localised.then
    {R : (ts : List Token) → Except Refusal (α × { rest : List Token // p ts rest })}
    {next : α → List Token → Prop} (h : RefusesThen e R next ts)
    (hfirst : R ts = .error e → Localised e Good (fun us ↦ R us = .error e) ts)
    (hnext : ∀ a mid, Reads (R ts) a mid → ∃ front, ts = front ++ mid ∧
      (∀ us, us.head? = mid.head? → Reads (R (front ++ us)) a us) ∧
      (next a mid → Localised e (fun ls ↦ Good (front.map Token.lexeme ++ ls)) (next a) mid)) :
    Localised e Good (RefusesThen e R next) ts := by
  rcases h with he | ⟨a, mid, hr, hn⟩
  · exact (hfirst he).mono (fun _ ↦ id) fun _ _ ↦ .inl
  · obtain ⟨front, rfl, hagain, hlocal⟩ := hnext a mid hr
    exact (hlocal hn).append front (fun _ ↦ id) fun us hus hn ↦ .inr ⟨a, us, hagain us hus, hn⟩

end Then

/-! ### Parts of a condition -/

theorem Flags.add_eq_error {f : Flags} {m : Modifier} (h : f.add m t = .error e) :
    e = ⟨.duplicateModifier m, t⟩ := by
  unfold Flags.add at h
  split at h
  · exact (Except.error.inj h).symm
  · cases m <;> cases h

theorem Flags.addIf_eq_error {f : Flags} {b : Bool} {m : Modifier}
    (h : f.addIf b m t = .error e) : e = ⟨.duplicateModifier m, t⟩ := by
  unfold Flags.addIf at h
  split at h
  · exact add_eq_error h
  · cases h

theorem modifiers_cons_eq_error_iff {f : Flags} {m : Modifier}
    (hm : t.lexeme.modifier? = some m) : modifiers f (t :: ts) = .error e ↔
      f.add m t = .error e ∨ ∃ f', f.add m t = .ok f' ∧ modifiers f' ts = .error e := by
  rw [modifiers]
  split
  · rename_i hnone
    simp [hm] at hnone
  · rename_i m' hm'
    obtain rfl : m = m' := Option.some.inj (hm.symm.trans hm')
    cases f.add m t with
    | error => simp [bind, Except.bind]
    | ok f' => cases h : modifiers f' ts <;> simp [bind, Except.bind, h, pure, Except.pure]

theorem modifiers_of_modifier?_eq_none {f : Flags} (hm : t.lexeme.modifier? = none) :
    modifiers f (t :: ts) ≠ .error e := by
  rw [modifiers]
  split
  · simp
  · rename_i m hm'
    simp [hm] at hm'

theorem modifiers_eq_error {f : Flags} (h : modifiers f ts = .error e) :
    ∃ m t, e = ⟨.duplicateModifier m, some t⟩ := by
  induction ts generalizing f with
  | nil => cases h
  | cons t ts ih =>
    cases hm : t.lexeme.modifier? with
    | none => exact absurd h (modifiers_of_modifier?_eq_none hm)
    | some m =>
      rcases (modifiers_cons_eq_error_iff hm).1 h with hadd | ⟨f', -, h'⟩
      · exact ⟨m, t, Flags.add_eq_error hadd⟩
      · exact ih h'

/-- Modifiers are refused at the first that repeats another. -/
theorem localised_modifiers {ms : List Modifier} (hms : ms.Nodup)
    (h : modifiers (.ofList ms) ts = .error e) :
    Localised e (fun ls ↦ ∃ ns, ls.map Lexeme.modifier? = ns.map some ∧ (ms ++ ns).Nodup)
      (fun us ↦ modifiers (.ofList ms) us = .error e) ts := by
  induction ts generalizing ms with
  | nil => cases h
  | cons t ts ih =>
    cases hm : t.lexeme.modifier? with
    | none => exact absurd h (modifiers_of_modifier?_eq_none hm)
    | some m =>
      rcases (modifiers_cons_eq_error_iff hm).1 h with hadd | ⟨f', hadd, h'⟩
      · obtain rfl := Flags.add_eq_error hadd
        refine localised_head rfl (by simp) (by simp [ParseFault.BlamesOpening])
          ⟨[], rfl, by simpa⟩ ?_
        rintro _ ⟨⟩ rest
        exact (modifiers_cons_eq_error_iff hm).2 (.inl hadd)
      · obtain ⟨hnew, rfl⟩ := Flags.add_ofList.1 hadd
        refine (ih ((nodup_concat hms).2 hnew) h').append [t] ?_ ?_
        · rintro ls ⟨ns, hls, hns⟩
          exact ⟨m :: ns, by simp [hm, hls], by simpa using hns⟩
        · exact fun us _ hus ↦ (modifiers_cons_eq_error_iff hm).2 (.inr ⟨_, hadd, hus⟩)

theorem localised_field (hgood : Good []) (h : field ts = .error e) :
    Localised e Good (fun us ↦ field us = .error e) ts := by
  cases ts with
  | nil =>
    cases h
    exact localised_head rfl (by simp) (by simp [ParseFault.BlamesOpening]) hgood (by simp)
  | cons t ts =>
    rcases t with ⟨⟨v, _ | _ | _ | _ | _⟩ | _ | _ | _ | _ | _ | _ | _, start⟩ <;> cases h <;>
      exact localised_head rfl (by simp) (by simp [ParseFault.BlamesOpening]) hgood
        (by rintro _ ⟨⟩ rest; rfl)

theorem localised_value {k : Comparison} (hgood : Good []) (h : value k ts = .error e) :
    Localised e Good (fun us ↦ value k us = .error e) ts := by
  cases ts with
  | nil =>
    cases h
    exact localised_head rfl (by simp) (by simp [ParseFault.BlamesOpening]) hgood (by simp)
  | cons t ts =>
    rcases t with ⟨_ | _ | _ | _ | _ | _ | _, start⟩ <;> cases h <;>
      exact localised_head rfl (by simp) (by simp [ParseFault.BlamesOpening]) hgood
        (by rintro _ ⟨⟩ rest; rfl)

/-- An operator that is one is refused for its modifiers only. -/
theorem operator_eq_error_of_operator? {name : String} {f : Flags} {op : Operator}
    (hop : t.lexeme.operator? = some op) (h : operator name f (t :: ts) = .error e) :
    ∃ m, e = ⟨.duplicateModifier m, t⟩ := by
  obtain ⟨w, hw⟩ := Lexeme.operator?_eq_some_iff.1 hop
  simp only [operator, hw] at h
  cases hn : f.addIf op.negate .not t with
  | error e' =>
    rw [hn] at h
    cases h
    exact ⟨_, Flags.addIf_eq_error hn⟩
  | ok g =>
    cases hs : g.addIf op.caseSensitive .caseSensitive t with
    | error e' =>
      simp only [hn, bind, Except.bind, hs] at h
      cases h
      exact ⟨_, Flags.addIf_eq_error hs⟩
    | ok g' => simp [hn, hs, bind, Except.bind, pure, Except.pure] at h

/-- An operator is refused for its modifiers or for not being one, and either way for itself. -/
theorem operator_cons_eq_error {name : String} {f : Flags}
    (h : operator name f (t :: ts) = .error e) : e.token = some t ∧ e.fault ≠ .emptyExpression ∧
      ¬ e.fault.BlamesOpening ∧ ∀ rest, operator name f (t :: rest) = .error e := by
  rcases t with ⟨⟨v, _ | op | _ | _ | _⟩ | _ | _ | _ | _ | _ | _ | _, start⟩
  case word.operator =>
    simp only [operator] at h ⊢
    cases hn : f.addIf op.negate .not ⟨.word v (.operator op), start⟩ with
    | error =>
      obtain rfl := Flags.addIf_eq_error hn
      rw [hn] at h
      cases h
      exact ⟨rfl, by simp, by simp [ParseFault.BlamesOpening], fun rest ↦ rfl⟩
    | ok g =>
      cases hs : g.addIf op.caseSensitive .caseSensitive ⟨.word v (.operator op), start⟩ with
      | error =>
        obtain rfl := Flags.addIf_eq_error hs
        simp only [hn, bind, Except.bind, hs] at h
        cases h
        exact ⟨rfl, by simp, by simp [ParseFault.BlamesOpening],
          fun rest ↦ by simp only [bind, Except.bind, hs]⟩
      | ok g' => simp [hn, hs, bind, Except.bind, pure, Except.pure] at h
  all_goals
    cases h
    exact ⟨rfl, by simp, by simp [ParseFault.BlamesOpening], fun rest ↦ rfl⟩

theorem localised_operator {name : String} {f : Flags} (hgood : Good [])
    (h : operator name f ts = .error e) :
    Localised e Good (fun us ↦ operator name f us = .error e) ts := by
  cases ts with
  | nil =>
    cases h
    exact localised_head rfl (by simp) (by simp [ParseFault.BlamesOpening]) hgood (by simp)
  | cons t ts =>
    obtain ⟨htoken, hfault, hlocal, hagain⟩ := operator_cons_eq_error h
    refine localised_head htoken hfault hlocal hgood ?_
    rintro _ ⟨⟩ rest
    exact hagain rest

/-! ### Conditions -/

/-- A condition is refused in one of five steps. -/
theorem condition_eq_error_iff : condition ts = .error e ↔
    RefusesThen e (modifiers .none) (fun f₁ ↦ RefusesThen e field fun name ↦
      RefusesThen e (modifiers f₁) fun f₂ ↦ RefusesThen e (operator name f₂) fun op us ↦
        value op.1 us = .error e) ts := by
  unfold condition
  refine bind_eq_error_iff fun f₁ ts₁ h₁ ↦ ?_
  refine bind_eq_error_iff fun name ts₂ h₂ ↦ ?_
  refine bind_eq_error_iff fun f₂ ts₃ h₃ ↦ ?_
  refine bind_eq_error_iff fun ⟨k, f₃⟩ ts₄ h₄ ↦ ?_
  exact bind_eq_error_iff_of_ne fun content mid h₅ ↦ by rintro ⟨⟩

/-- What a condition is refused for comes after the beginning of one. -/
theorem localised_condition {n : Nat} (h : condition ts = .error e) :
    Localised e (Begins n .term) (fun us ↦ condition us = .error e) ts := by
  have hnil : Flags.none = .ofList [] := rfl
  refine (Localised.then (condition_eq_error_iff.1 h) ?_ fun f₁ ts₁ h₁ ↦ ?_).mono (fun _ ↦ id)
    fun us _ ↦ condition_eq_error_iff.2
  · intro h
    rw [hnil] at h ⊢
    exact (localised_modifiers .nil h).mono
      (fun ls ⟨ns, hls, hns⟩ ↦ begins_modifiers hls (by simpa using hns)) fun _ _ ↦ id
  -- The field follows the first modifiers.
  rw [hnil] at h₁
  obtain ⟨before, ms, rfl, hms, hnodup, rfl, hstop⟩ := (reads_modifiers .nil).1 h₁
  rw [List.nil_append] at hnodup
  refine ⟨before, rfl, fun us hus ↦ ?_, fun h ↦ Localised.then h ?_ fun name ts₂ h₂ ↦ ?_⟩
  · exact (reads_modifiers .nil).2 ⟨before, ms, rfl, hms, hnodup, rfl, hus ▸ hstop⟩
  · refine localised_field ?_
    simpa using begins_modifiers hms hnodup
  -- More modifiers follow the field, and must not repeat the first ones.
  obtain ⟨tn, rfl, hname⟩ := reads_field.1 h₂
  refine ⟨[tn], rfl, fun us _ ↦ ?_, fun h ↦ Localised.then h ?_ fun f₂ ts₃ h₃ ↦ ?_⟩
  · exact reads_field.2 ⟨tn, rfl, hname⟩
  · intro h
    refine (localised_modifiers hnodup h).mono (fun ls ⟨ns, hls, hns⟩ ↦ ?_) fun _ _ ↦ id
    simpa using begins_field hms hname hls hns
  -- The operator follows them, and can hold modifiers itself.
  obtain ⟨after, ns, rfl, hns, hnodup', rfl, hstop'⟩ := (reads_modifiers hnodup).1 h₃
  refine ⟨after, rfl, fun us hus ↦ ?_, fun h ↦ Localised.then h ?_ fun op ts₄ h₄ ↦ ?_⟩
  · exact (reads_modifiers hnodup).2 ⟨after, ns, rfl, hns, hnodup', rfl, hus ▸ hstop'⟩
  · refine localised_operator ?_
    simpa using begins_field hms hname hns hnodup'
  -- The value follows the operator.
  obtain ⟨k, f₃⟩ := op
  obtain ⟨tok, op, rfl, hop, rfl, hall, rfl⟩ := (reads_operator hnodup').1 h₄
  refine ⟨[tok], rfl, fun us _ ↦ ?_, localised_value ?_⟩
  · exact (reads_operator hnodup').2 ⟨tok, op, rfl, hop, rfl, hall, rfl⟩
  · simpa using begins_operator hms hname hns hop hall

/-! ### Terms and chains -/

variable {n : Nat} {k : Connective} {r : Reader Tree}

/-- In parentheses something is refused, or the closing one is missing. -/
theorem term_parentheses_eq_error_iff (ht : t.lexeme = .openParen)
    (hts : ts.head?.map Token.lexeme ≠ some .closeParen) : term (some r) (t :: ts) = .error e ↔
      RefusesThen e r (fun _ after ↦ after.head?.map Token.lexeme ≠ some .closeParen ∧
        (⟨.missingClosing, t⟩ : Refusal) = e) ts := by
  unfold term
  dsimp only
  rw [ht]
  dsimp only
  split
  · rename_i h
    exact absurd h hts
  · refine bind_eq_error_iff fun tree after h ↦ ?_
    cases after with
    | nil => simp
    | cons close after => by_cases hc : close.lexeme = .closeParen <;> simp [hc]

/-- Where no term starts with a parenthesis, there is nothing, or a condition is refused. -/
theorem localised_term_condition {inner : Option (Reader Tree)}
    (ht : ∀ t ∈ ts.head?, t.lexeme ≠ .openParen) (h : term inner ts = .error e) :
    Localised e (Begins n .term) (fun us ↦ term inner us = .error e) ts := by
  cases ts with
  | nil =>
    cases h
    exact localised_head rfl (by simp) (by simp [ParseFault.BlamesOpening]) begins_nil (by simp)
  | cons t ts =>
    rw [term_eq_condition (ht t rfl)] at h
    refine (localised_condition h).mono (fun _ ↦ id) fun us hus hrefused ↦ ?_
    obtain ⟨vs, rfl⟩ := List.head?_eq_some_iff.1 hus
    rwa [term_eq_condition (ht t rfl)]

/-- Where no parenthesis may be opened, one that is opened is blamed. -/
theorem localised_term_none (h : term none ts = .error e) :
    Localised e (Begins 0 .term) (fun us ↦ term none us = .error e) ts := by
  by_cases ht : ∀ t ∈ ts.head?, t.lexeme ≠ .openParen
  · exact localised_term_condition ht h
  · push Not at ht
    obtain ⟨t, hhead, ht⟩ := ht
    obtain ⟨ts, rfl⟩ := List.head?_eq_some_iff.1 hhead
    rw [term_none_openParen ht] at h
    cases h
    refine localised_head rfl (by simp) (by simp [ParseFault.BlamesOpening]) begins_nil ?_
    rintro _ ⟨⟩ rest
    exact term_none_openParen ht

/-- A fault of a pair of parentheses is blamed on the opening one. -/
theorem localised_opening (ht : t.lexeme = .openParen) (htoken : e.token = some t)
    (hfault : e.fault.BlamesOpening) (hgood : Good []) : Localised e Good Refused (t :: ts) := by
  refine ⟨[], t :: ts, rfl, htoken, ?_, hgood, fun _ ↦ ⟨t, rfl, ht⟩, fun h ↦ absurd hfault h⟩
  rintro he
  rw [he] at hfault
  simp [ParseFault.BlamesOpening] at hfault

/-- With parentheses around what is localised, terms are localised one level further up. -/
theorem localised_term_some
    (hr : ∀ ts, r ts = .error e → Localised e (Begins n (.chain .or)) (fun us ↦ r us = .error e) ts)
    (h : term (some r) ts = .error e) :
    Localised e (Begins (n + 1) .term) (fun us ↦ term (some r) us = .error e) ts := by
  by_cases ht : ∀ t ∈ ts.head?, t.lexeme ≠ .openParen
  · exact localised_term_condition ht h
  · push Not at ht
    obtain ⟨t, hhead, ht⟩ := ht
    obtain ⟨ts, rfl⟩ := List.head?_eq_some_iff.1 hhead
    by_cases hts : ts.head?.map Token.lexeme = some .closeParen
    · rw [term_empty_parentheses ht hts] at h
      cases h
      exact localised_opening ht rfl (.inr rfl) begins_nil
    · rcases (term_parentheses_eq_error_iff ht hts).1 h with hread | ⟨_, after, -, -, rfl⟩
      · refine (hr ts hread).append [t] ?_ ?_
        · intro ls hls
          rw [List.map_singleton, ht]
          exact hls.parentheses
        · intro us hus hrefused
          have hus' : us.head?.map Token.lexeme ≠ some .closeParen := by rwa [hus]
          exact (term_parentheses_eq_error_iff ht hus').2 (.inl hrefused)
      · exact localised_opening ht rfl (.inl rfl) begins_nil

/-- A chain is refused in its first operand or after it. -/
theorem chain_eq_error_iff : chain k r ts = .error e ↔
    RefusesThen e r (fun _ after ↦ operands k r after = .error e) ts := by
  refine bind_eq_error_iff fun first after h ↦ ?_
  exact bind_eq_error_iff_of_ne fun others rest h' ↦ by rintro ⟨⟩

/-- What is refused after an operand is a chain after its connective. -/
theorem operands_eq_error_iff : operands k r ts = .error e ↔
    ∃ t us, ts = t :: us ∧ t.lexeme.connective? = some k ∧ chain k r us = .error e := by
  cases ts with
  | nil => simp [operands]
  | cons t ts =>
    by_cases ht : t.lexeme.connective? = some k
    · have hoperands : operands k r (t :: ts) = .error e ↔ chain k r ts = .error e := by
        rw [chain_eq_error_iff, operands, if_pos ht]
        refine bind_eq_error_iff fun first after h ↦ ?_
        exact bind_eq_error_iff_of_ne fun others rest h' ↦ by rintro ⟨⟩
      simp [hoperands, ht]
    · rw [operands, if_neg ht]
      simp [ht]

/-- A reader that accepts phrases does so again where only tokens after the next one differ. -/
theorem Accepts.again {p : Phrase} (hr : Accepts n p r) {tree : Tree}
    (h : Reads (r ts) tree rest) : ∃ front us, ts = front ++ rest ∧
      Derives n p (front.map Token.lexeme) us ∧
      ∀ vs, vs.head? = rest.head? → Reads (r (front ++ vs)) tree vs := by
  obtain ⟨front, us, rfl, hd, rfl, hs⟩ := (hr _ _ _).1 h
  refine ⟨front, us, rfl, hd, fun vs hvs ↦ (hr _ _ _).2 ⟨front, us, rfl, hd, rfl, ?_⟩⟩
  unfold Stops
  rwa [hvs]

/-- Chains of operands that are localised are localised. -/
theorem localised_chain (hacc : Accepts n (.operand k) r)
    (hr : ∀ ts, r ts = .error e →
      Localised e (Begins n (.operand k)) (fun us ↦ r us = .error e) ts)
    (h : chain k r ts = .error e) :
    Localised e (Begins n (.chain k)) (fun us ↦ chain k r us = .error e) ts := by
  -- The induction is on the number of tokens, which every operand makes smaller.
  induction hlen : ts.length using Nat.strong_induction_on generalizing ts with
  | _ len ih =>
    subst hlen
    refine (Localised.then (chain_eq_error_iff.1 h) ?_ fun tree after hread ↦ ?_).mono
      (fun _ ↦ id) fun us _ ↦ chain_eq_error_iff.2
    · exact fun h ↦ (hr ts h).mono (fun _ ↦ Begins.single) fun _ _ ↦ id
    have hlt := hread.1
    obtain ⟨front, us, rfl, hd, hagain⟩ := hacc.again hread
    refine ⟨front, rfl, hagain, fun hnext ↦ ?_⟩
    obtain ⟨t, tail, rfl, ht, htail⟩ := operands_eq_error_iff.1 hnext
    refine (ih _ (by simp at hlt ⊢; omega) htail rfl).append [t] ?_ ?_
    · exact fun ls hls ↦ hls.joined hd ht
    · exact fun us _ hus ↦ operands_eq_error_iff.2 ⟨t, us, rfl, ht, hus⟩

/-- The refusals of the reader of expressions are localised, at every nesting. -/
theorem localised_expression (h : expression n ts = .error e) :
    Localised e (Begins n (.chain .or)) (fun us ↦ expression n us = .error e) ts := by
  induction n generalizing ts with
  | zero =>
    refine localised_chain (accepts_chain accepts_term_none) (fun us ↦ ?_) h
    exact localised_chain accepts_term_none fun vs ↦ localised_term_none
  | succ n ih =>
    have hterm := accepts_term_some (accepts_expression n)
    refine localised_chain (accepts_chain hterm) (fun us ↦ ?_) h
    exact localised_chain hterm fun vs ↦ localised_term_some fun ws ↦ ih

/-! ### Where a refusal comes from -/

/-- How a refusal of an expression arises. It is one of a condition or of a pair of parentheses, and
what it is found behind is read without one: opening parentheses, and operands with the connectives
after them. -/
inductive Arises (e : Refusal) : List Token → Prop
  | condition {ts : List Token} (h : condition ts = .error e) : Arises e ts
  | nothing (he : e = ⟨.expectedCondition, none⟩) : Arises e []
  | nested {t : Token} {ts : List Token} (ht : t.lexeme = .openParen)
      (he : e = ⟨.nestedTooDeeply, some t⟩) : Arises e (t :: ts)
  | empty {t : Token} {ts : List Token} (ht : t.lexeme = .openParen)
      (he : e = ⟨.emptyParentheses, some t⟩) : Arises e (t :: ts)
  /-- A complete expression in parentheses, followed by what neither goes on with it nor ends it. -/
  | missing {t : Token} {inner rest : List Token} {us : List Tree} (ht : t.lexeme = .openParen)
      (hinner : Derives maxNesting (.chain .or) (inner.map Token.lexeme) us)
      (hrest : ∀ u ∈ rest.head?, ¬ Closes u.lexeme) (he : e = ⟨.missingClosing, some t⟩) :
      Arises e (t :: (inner ++ rest))
  | enclosed {t : Token} {ts : List Token} (ht : t.lexeme = .openParen) (h : Arises e ts) :
      Arises e (t :: ts)
  | joined {t : Token} {ts : List Token} (front : List Token)
      (ht : t.lexeme.connective?.isSome = true) (h : Arises e ts) : Arises e (front ++ t :: ts)

theorem arises_of_term {inner : Option (Reader Tree)} (hn : n ≤ maxNesting)
    (hinner : ∀ r ∈ inner, Accepts n (.chain .or) r ∧ ∀ ts, r ts = .error e → Arises e ts)
    (h : term inner ts = .error e) : Arises e ts := by
  cases ts with
  | nil =>
    cases h
    exact .nothing rfl
  | cons t ts =>
    by_cases ht : t.lexeme = .openParen
    · cases inner with
      | none =>
        rw [term_none_openParen ht] at h
        exact .nested ht (Except.error.inj h).symm
      | some r =>
        obtain ⟨hacc, hr⟩ := hinner r rfl
        by_cases hts : ts.head?.map Token.lexeme = some .closeParen
        · rw [term_empty_parentheses ht hts] at h
          exact .empty ht (Except.error.inj h).symm
        · rcases (term_parentheses_eq_error_iff ht hts).1 h with
            hread | ⟨tree, rest, hread, hrest, rfl⟩
          · exact .enclosed ht (hr ts hread)
          · obtain ⟨inner, us, rfl, hd, -, hstops⟩ := (hacc ts tree rest).1 hread
            refine .missing ht (hd.mono hn) (fun u hu hcloses ↦ ?_) rfl
            rcases hcloses with hclose | hconn
            · exact hrest (by rw [hu, Option.map_some, hclose])
            · -- An expression goes on with either connective.
              obtain ⟨k, hk⟩ := Option.isSome_iff_exists.1 hconn
              exact hstops u hu k hk (by cases k <;> simp [Phrase.joins])
    · rw [term_eq_condition ht] at h
      exact .condition h

theorem arises_of_chain (hacc : Accepts n (.operand k) r)
    (hr : ∀ ts, r ts = .error e → Arises e ts) (h : chain k r ts = .error e) : Arises e ts := by
  -- The induction is on the number of tokens, which every operand makes smaller.
  induction hlen : ts.length using Nat.strong_induction_on generalizing ts with
  | _ len ih =>
    subst hlen
    rcases chain_eq_error_iff.1 h with h | ⟨tree, after, hread, hnext⟩
    · exact hr ts h
    · have hlt := hread.1
      obtain ⟨front, -, rfl, -⟩ := hacc.again hread
      obtain ⟨t, tail, rfl, ht, htail⟩ := operands_eq_error_iff.1 hnext
      have htail := ih _ (by simp at hlt ⊢; omega) htail rfl
      exact .joined front (by rw [ht]; rfl) htail

/-- Every refusal of the reader of expressions comes about in one of these ways. -/
theorem arises_of_expression (hn : n ≤ maxNesting) (h : expression n ts = .error e) :
    Arises e ts := by
  induction n generalizing ts with
  | zero =>
    refine arises_of_chain (accepts_chain accepts_term_none) (fun us hus ↦ ?_) h
    refine arises_of_chain accepts_term_none (fun vs ↦ arises_of_term hn ?_) hus
    rintro _ ⟨⟩
  | succ n ih =>
    have hacc := accepts_expression n
    refine arises_of_chain (accepts_chain (accepts_term_some hacc)) (fun us hus ↦ ?_) h
    refine arises_of_chain (accepts_term_some hacc) (fun vs ↦ ?_) hus
    refine arises_of_term (n := n) (by omega) ?_
    rintro _ ⟨⟩
    exact ⟨hacc, fun ws ↦ ih (by omega)⟩

/-! ### Whole texts -/

/-- Whole tokens are refused in an expression, or for what follows it. -/
theorem whole_eq_error_iff (hts : ts ≠ []) : whole ts = .error e ↔
    RefusesThen e (expression maxNesting) (fun _ rest ↦ ∃ t us, rest = t :: us ∧
      (if t.lexeme = .closeParen then ⟨.unmatchedClosing, t⟩ else ⟨.trailing t.text, t⟩ : Refusal) =
        e) ts := by
  obtain ⟨t, ts, rfl⟩ := List.exists_cons_of_ne_nil hts
  refine bind_eq_error_iff fun tree rest h ↦ ?_
  cases rest with
  | nil => simp [pure, Except.pure]
  | cons u us => by_cases hu : u.lexeme = .closeParen <;> simp [hu]

/-- The refusals of whole tokens are localised. What follows an expression is blamed at its start.
-/
theorem localised_whole (hts : ts ≠ []) (h : whole ts = .error e) :
    Localised e (Begins maxNesting (.chain .or)) (fun us ↦ whole us = .error e) ts := by
  refine (Localised.then ((whole_eq_error_iff hts).1 h) localised_expression
    fun tree rest hr ↦ ?_).mono (fun _ ↦ id) fun us hus ↦ (whole_eq_error_iff ?_).2
  · obtain ⟨front, us, rfl, hd, hagain⟩ := (accepts_expression maxNesting).again hr
    refine ⟨front, rfl, hagain, ?_⟩
    rintro ⟨t, us, rfl, rfl⟩
    refine localised_head ?_ ?_ ?_ ?_ ?_
    · split <;> rfl
    · split <;> simp
    · split <;> simp [ParseFault.BlamesOpening]
    · simpa using hd.begins
    · rintro _ ⟨⟩ vs
      exact ⟨t, vs, rfl, rfl⟩
  · rintro rfl
    exact hts (List.head?_eq_none_iff.1 hus.symm)

end Expression

/-! ### Places of tokens -/

namespace Token

variable {start : Nat} {ls : List Lexeme} {t : Token}

/-- Tokens in a row lie between the first byte and the last. -/
theorem start_of_mem_place (h : t ∈ place start ls) (hls : ∀ l ∈ ls, l.chars ≠ []) :
    start ≤ t.start ∧ t.start < start + Text.byteLength (ls.flatMap Lexeme.chars) := by
  induction ls generalizing start with
  | nil => cases h
  | cons l ls ih =>
    obtain ⟨hl, hls⟩ := List.forall_mem_cons.1 hls
    have hpos := Text.byteLength_pos hl
    rw [List.flatMap_cons, Text.byteLength_append]
    rcases List.mem_cons.1 h with rfl | h
    · dsimp only
      omega
    · have := ih h hls
      omega

/-- Tokens in a row start one after the other. -/
theorem pairwise_place (start : Nat) (hls : ∀ l ∈ ls, l.chars ≠ []) :
    (place start ls).Pairwise fun t u ↦ t.start < u.start := by
  induction ls generalizing start with
  | nil => exact .nil
  | cons l ls ih =>
    obtain ⟨hl, hls⟩ := List.forall_mem_cons.1 hls
    have hpos := Text.byteLength_pos hl
    refine .cons (fun t ht ↦ ?_) (ih _ hls)
    have := (start_of_mem_place ht hls).1
    dsimp only
    omega

/-- The tokens of a text start one after the other, before its end. -/
theorem starts_tokenize (catalog : Catalog) (text : String) :
    (tokenize catalog text).Pairwise (fun t u ↦ t.start < u.start) ∧
      ∀ t ∈ tokenize catalog text, t.start < Text.byteSize text := by
  have hne : ∀ l ∈ Lexeme.cut catalog text.toList, l.chars ≠ [] :=
    fun l hl ↦ Lexeme.chars_ne_nil_of_mem_cut hl
  refine ⟨pairwise_place 0 hne, fun t ht ↦ ?_⟩
  have := (start_of_mem_place ht hne).2
  rwa [Lexeme.flatMap_chars_cut, Nat.zero_add] at this

/-- The tokens that start before one of them are those in front of it. -/
theorem filter_start_lt {front tail : List Token}
    (h : (front ++ t :: tail).Pairwise fun t u ↦ t.start < u.start) :
    (front ++ t :: tail).filter (fun u ↦ u.start < t.start) = front := by
  obtain ⟨-, htail, hfront⟩ := List.pairwise_append.1 h
  have hkeep : front.filter (fun u ↦ u.start < t.start) = front :=
    List.filter_eq_self.2 fun u hu ↦ by simpa using hfront u hu t List.mem_cons_self
  have hdrop : tail.filter (fun u ↦ u.start < t.start) = [] := by
    refine List.filter_eq_nil_iff.2 fun u hu ↦ ?_
    have := (List.pairwise_cons.1 htail).1 u hu
    simp
    omega
  rw [List.filter_append, hkeep, List.filter_cons, hdrop]
  simp

/-- A byte is the start of one token only. -/
theorem split_unique {ts front back front' back' : List Token} {u : Token}
    (hts : ts.Pairwise fun t u ↦ t.start < u.start) (h : ts = front ++ t :: back)
    (h' : ts = front' ++ u :: back') (hstart : t.start = u.start) : front = front' ∧ t = u := by
  have hfront : ts.filter (fun x ↦ x.start < t.start) = front := by
    rw [h] at hts ⊢
    exact filter_start_lt hts
  have hfront' : ts.filter (fun x ↦ x.start < u.start) = front' := by
    rw [h'] at hts ⊢
    exact filter_start_lt hts
  have hsame : front = front' := by rw [← hfront, ← hfront', hstart]
  rw [hsame] at h
  exact ⟨hsame, (List.cons.inj (List.append_cancel_left (h.symm.trans h'))).1⟩

end Token

/-! ### Errors of texts -/

theorem Tree.parse_eq_error {text : String} {e : ParseError} (h : Tree.parse text = .error e) :
    ∃ r, Expression.whole (Token.significant (tokenize ∅ text)) = .error r ∧
      e = r.locate (Text.byteSize text) := by
  unfold Tree.parse at h
  cases hw : Expression.whole (Token.significant (tokenize ∅ text)) with
  | ok t => simp [hw] at h
  | error r =>
    rw [hw] at h
    exact ⟨r, rfl, (Except.error.inj h).symm⟩

/-- Tokens that are refused with anything after them start no text that has a tree. -/
theorem not_isBeginning_of_refused (ts : List Token) {r : Expression.Refusal}
    (h : ∀ rest, Expression.whole (ts ++ rest) = .error r) :
    ¬ IsBeginning (ts.map Token.lexeme) := by
  refine not_isBeginning fun more t ht ↦ ?_
  have hmore : (more.map fun l ↦ (⟨l, 0⟩ : Token)).map Token.lexeme = more := by
    rw [List.map_map]
    exact List.map_id more
  have hok : Expression.whole (ts ++ more.map fun l ↦ ⟨l, 0⟩) = .ok t := by
    rw [Expression.whole_eq_ok_iff, List.map_append, hmore]
    exact ht
  rw [h] at hok
  cases hok

/-- An error stands at the first token that is impossible where it is. The error of a text that is
not blank blames the end of the text or one of its tokens. The tokens before it are the beginning of
a text that has a tree. With the blamed token they are not, and where the end is blamed, the tokens
of the text are all of them such a beginning. The two faults of a pair of parentheses blame the
opening one instead. -/
theorem Tree.parse_error_offset (text : String) (e : ParseError)
    (hblank : Token.significant (tokenize ∅ text) ≠ []) (h : Tree.parse text = .error e) :
    let tokens := Token.significant (tokenize ∅ text)
    let before := (tokens.filter fun t ↦ t.start < e.offset).map Token.lexeme
    (e.offset = Text.byteSize text ∨ ∃ t ∈ tokens, t.start = e.offset) ∧
    IsBeginning before ∧
    (e.fault.BlamesOpening → ∃ t ∈ tokens, t.start = e.offset ∧ t.lexeme = .openParen) ∧
    (¬ e.fault.BlamesOpening →
      (e.offset = Text.byteSize text ∧ IsBeginning (tokens.map Token.lexeme)) ∨
        ∃ t ∈ tokens, t.start = e.offset ∧ ¬ IsBeginning (before ++ [t.lexeme])) := by
  intro tokens before
  obtain ⟨r, hr, rfl⟩ := parse_eq_error h
  obtain ⟨front, tail, hsplit, hb⟩ := Expression.localised_whole hblank hr
  obtain ⟨hstarts, hend⟩ := Token.starts_tokenize ∅ text
  have hmem : ∀ l ∈ front.map Token.lexeme, l ∈ Lexeme.significant ∅ text.toList := by
    intro l hl
    rw [← Token.map_lexeme_significant, hsplit, List.map_append]
    exact List.mem_append_left _ hl
  have hfront : IsBeginning (front.map Token.lexeme) := isBeginning_of_begins hb.good hmem
  have hpair : tokens.Pairwise fun t u ↦ t.start < u.start := hstarts.filter _
  have htokens : tokens = front ++ tail := hsplit
  cases tail with
  | nil =>
    -- The end is blamed, and every token is in front of it.
    have hoffset : (r.locate (Text.byteSize text)).offset = Text.byteSize text := by
      simp [Expression.Refusal.locate, hb.token, hb.fault]
    have hall : front.filter (fun t ↦ t.start < Text.byteSize text) = front := by
      refine List.filter_eq_self.2 fun t ht ↦ ?_
      have : t ∈ tokens := by rw [htokens]; simpa using ht
      simpa using hend t (List.mem_of_mem_filter this)
    have hbefore : before = front.map Token.lexeme := by
      simp only [before, htokens, List.append_nil, hoffset, hall]
    rw [hbefore, htokens, List.append_nil]
    refine ⟨.inl hoffset, hfront, fun ho ↦ ?_, fun _ ↦ .inl ⟨hoffset, hfront⟩⟩
    obtain ⟨t, ht, -⟩ := hb.opening ho
    cases ht
  | cons t tail =>
    -- The first token of the tail is blamed, and starts after those in front.
    have hoffset : (r.locate (Text.byteSize text)).offset = t.start := by
      simp [Expression.Refusal.locate, hb.token]
    have hbefore : before = front.map Token.lexeme := by
      rw [htokens] at hpair
      simp only [before, htokens, hoffset, Token.filter_start_lt hpair]
    have ht : t ∈ tokens := by simp [htokens]
    rw [hbefore, hoffset]
    refine ⟨.inr ⟨t, ht, rfl⟩, hfront, fun ho ↦ ?_, fun ho ↦ .inr ⟨t, ht, rfl, ?_⟩⟩
    · obtain ⟨_, ⟨⟩, hopen⟩ := hb.opening ho
      exact ⟨t, ht, rfl, hopen⟩
    · have hrefused := not_isBeginning_of_refused (front ++ [t]) fun rest ↦ by
        simpa using hb.again ho t rfl rest
      simpa using hrefused

/-- A modifier that is repeated in an operator is blamed on the operator, whatever may follow. -/
theorem Tree.parse_error_offset_of_repeated_modifier :
    let before := [Lexeme.word "not" (.modifier .not), .word "a" .unknown]
    parse "not a not_equals 'x'" = .error ⟨.duplicateModifier .not, 6⟩ ∧ IsBeginning before ∧
      ¬ IsBeginning (before ++ [.word "not_equals" (.operator ⟨.equals, true, false⟩)]) := by
  intro before
  have htokens : Token.significant (tokenize ∅ "not a not_equals 'x'") =
      [⟨.word "not" (.modifier .not), 0⟩, ⟨.word "a" .unknown, 4⟩,
        ⟨.word "not_equals" (.operator ⟨.equals, true, false⟩), 6⟩, ⟨.quoted '\'' "x", 17⟩] := by
    decide +kernel
  have h : parse "not a not_equals 'x'" = .error ⟨.duplicateModifier .not, 6⟩ := by decide +kernel
  obtain ⟨-, hbefore, -, hblamed⟩ := parse_error_offset _ _ (by simp [htokens]) h
  simp only [htokens] at hbefore hblamed
  refine ⟨h, hbefore, ?_⟩
  rcases hblamed (by decide) with ⟨hend, -⟩ | ⟨t, ht, hstart, hnot⟩
  · exact absurd hend (by decide)
  · simp only [List.mem_cons, List.not_mem_nil, or_false] at ht
    rcases ht with rfl | rfl | rfl | rfl <;> simp at hstart
    exact hnot

end FilterLang
