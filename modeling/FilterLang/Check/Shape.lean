import FilterLang.Token

/-!
# The shapes of conditions

To check an expression that may be wrong anywhere, its conditions are found without building a tree.
A condition starts at the beginning of the expression, after an opening parenthesis and after a
connective; there its field, its operator and its value are picked out, as far as they are there.
Only tokens are looked at, so words inside quoted values are never taken for fields or operators.
-/

namespace FilterLang

namespace Token

/-- Whether the token is a word that may stand for a field or an operator: any word but a
connective. -/
def isPlainWord (t : Token) : Bool := t.lexeme.isWord && t.lexeme.connective?.isNone

/-- Whether the token ends a condition: a parenthesis or a connective. -/
def isBoundary (t : Token) : Bool :=
  t.lexeme.connective?.isSome || t.lexeme == .openParen || t.lexeme == .closeParen

/-- Whether a condition starts after the token. -/
def opensCondition (t : Token) : Bool :=
  t.lexeme == .openParen || t.lexeme.connective?.isSome

end Token

namespace Check

/-- The tokens of one condition, as far as they are there. -/
structure Shape where
  field : Token
  operator : Option Token
  value : Option Token
  deriving Repr, DecidableEq

namespace Shape

/-- The tokens from the first that is not a modifier. -/
def afterModifiers (ts : List Token) : List Token := ts.dropWhile (·.lexeme.modifier?.isSome)

theorem length_afterModifiers (ts : List Token) : (afterModifiers ts).length ≤ ts.length :=
  (List.dropWhile_suffix _).length_le

/-- The shape of the condition with the given field, and the tokens after it. -/
def ofField (field : Token) (ts : List Token) : Shape × List Token :=
  match afterModifiers ts with
  | operator :: rest =>
    if operator.isPlainWord then
      match rest with
      | value :: rest' =>
        if value.isBoundary then (⟨field, operator, none⟩, rest)
        else (⟨field, operator, value⟩, rest')
      | [] => (⟨field, operator, none⟩, [])
    else (⟨field, none, none⟩, operator :: rest)
  | [] => (⟨field, none, none⟩, [])

theorem length_ofField (field : Token) (ts : List Token) :
    (ofField field ts).2.length ≤ ts.length := by
  have h := length_afterModifiers ts
  unfold ofField
  split
  · rename_i operator rest heq
    rw [heq] at h
    simp only [List.length_cons] at h
    split
    · split
      · split <;> simp_all <;> omega
      · simp
    · simpa using h
  · simp

/-- The shapes of the conditions among the significant tokens of an expression. `atStart` says
whether a condition may start at the first of them. -/
def scan (atStart : Bool) (ts : List Token) : List Shape :=
  match ts with
  | [] => []
  | t :: rest =>
    if t.opensCondition then scan true rest
    else if atStart then
      match _h : afterModifiers (t :: rest) with
      | [] => []
      | field :: rest' =>
        if field.isPlainWord then (ofField field rest').1 :: scan false (ofField field rest').2
        else scan false (field :: rest')
    else scan false rest
termination_by 2 * ts.length + (if atStart then 1 else 0)
decreasing_by
  all_goals
    have h₁ := length_afterModifiers (t :: rest)
    simp only [List.length_cons] at h₁ ⊢
  · split <;> simp <;> omega
  · have h₂ := length_ofField field rest'
    rw [_h] at h₁
    simp only [List.length_cons] at h₁
    split <;> simp <;> omega
  · rename_i hs _
    rw [_h] at h₁
    simp only [List.length_cons] at h₁
    simp [hs]
    omega
  · split <;> simp
    omega

/-- The shapes of the conditions of an expression, from left to right. -/
def ofTokens (ts : List Token) : List Shape := scan true ts

end Shape

end Check

end FilterLang
