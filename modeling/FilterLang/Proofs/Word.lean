import FilterLang.Token.Lexer

/-!
# Which words can name a field

A field stands in an expression as one bare word, and the language keeps some words for itself: the
keywords of the operators, spelled exactly, and the connectives and modifiers in any ASCII case. The
three predicates here say this without the lexer, and `reserved_eq_unknown_iff` ties them to the
role that the lexer gives a word.
-/

namespace FilterLang

/-! ### Bare and reserved words -/

/-- Whether a string is one whole bare word. -/
def IsBareWord (w : String) : Prop := w ≠ "" ∧ ∀ c ∈ w.toList, isBareChar c = true

instance (w : String) : Decidable (IsBareWord w) :=
  decidable_of_iff (w ≠ "" ∧ w.toList.all isBareChar = true) (by simp [IsBareWord])

/-- Whether the language reserves a word: the keyword of an operator, or a connective or a modifier
in any ASCII case. -/
def IsReserved (w : String) : Prop :=
  w ∈ Operator.keywords ∨ Text.asciiLowered w ∈ ["and", "or", "not", "case_sensitive"]

instance (w : String) : Decidable (IsReserved w) :=
  inferInstanceAs (Decidable (_ ∨ _))

/-- Whether a string can name a field in an expression: a bare word that is not reserved. -/
def IsFieldName (w : String) : Prop := IsBareWord w ∧ ¬ IsReserved w

instance (w : String) : Decidable (IsFieldName w) :=
  inferInstanceAs (Decidable (_ ∧ _))

/-! ### Characters of bare words -/

/-- Whether `c` is one of the two quotes. -/
def IsQuote (c : Char) : Prop := c = '"' ∨ c = '\''

instance (c : Char) : Decidable (IsQuote c) :=
  inferInstanceAs (Decidable (_ ∨ _))

/-- A quote stands in no bare word. -/
theorem isBareChar_of_isQuote {c : Char} (h : IsQuote c) : isBareChar c = false := by
  rcases h with rfl | rfl <;> decide

/-- A parenthesis stands in no bare word. -/
theorem isBareChar_of_paren {c : Char} (h : c = '(' ∨ c = ')') : isBareChar c = false := by
  rcases h with rfl | rfl <;> decide

theorem blankRanges_apart :
    ∀ r ∈ Text.blankRanges, ∀ s ∈ Text.wordRanges, r.2 < s.1 ∨ s.2 < r.1 := by
  decide +kernel

/-- The blanks below U+0080. -/
theorem toNat_of_isBlank {c : Char} (h : Text.isBlank c = true) (hc : c.toNat < 128) :
    c.toNat ∈ [9, 10, 11, 12, 13, 32] := by
  obtain ⟨r, hr, hlo, hhi⟩ := CodeSet.contains_iff.1 h
  simp only [Text.blankRanges, List.mem_cons, List.not_mem_nil, or_false] at hr ⊢
  rcases hr with rfl | rfl | rfl | rfl | rfl | rfl | rfl | rfl | rfl | rfl <;>
    simp only at hlo hhi <;> omega

/-- No blank is a word character. The two tables are compared from U+0080 on, and below it there are
only six blanks. -/
theorem isWordChar_of_isBlank {c : Char} (h : Text.isBlank c = true) :
    Text.isWordChar c = false := by
  by_cases hc : c.toNat < 128
  · have hmem := toNat_of_isBlank h hc
    simp only [List.mem_cons, List.not_mem_nil, or_false] at hmem
    rw [← Char.ofNat_toNat c]
    rcases hmem with h | h | h | h | h | h <;> rw [h] <;> decide
  · rw [Text.isWordChar, if_neg hc, Bool.eq_false_iff]
    intro hw
    obtain ⟨r, hr, hlo, hhi⟩ := CodeSet.contains_iff.1 h
    obtain ⟨s, hs, hlo', hhi'⟩ := CodeSet.contains_iff.1 hw
    have := blankRanges_apart r hr s hs
    omega

/-- A blank stands in no bare word. -/
theorem isBareChar_of_isBlank {c : Char} (h : Text.isBlank c = true) : isBareChar c = false := by
  have hdot : c ≠ '.' := by
    rintro rfl
    exact absurd h (by decide)
  have hhyphen : c ≠ '-' := by
    rintro rfl
    exact absurd h (by decide)
  simp [isBareChar, isWordChar_of_isBlank h, hdot, hhyphen]

/-- The signs for connectives are no bare words. -/
theorem IsBareWord.ne_glyph {w : String} (h : IsBareWord w) (c : Connective) : w ≠ c.glyph := by
  rintro rfl
  exact absurd h (by cases c <;> decide)

/-! ### Roles and reserved words -/

theorem ofKeyword?_eq_none_iff {w : String} :
    Operator.ofKeyword? w = none ↔ w ∉ Operator.keywords := by
  simp [Operator.ofKeyword?, Operator.keywords]

theorem ofWord?_modifier_eq_none_iff {w : String} :
    Modifier.ofWord? w = none ↔
      Text.asciiLowered w ≠ "not" ∧ Text.asciiLowered w ≠ "case_sensitive" := by
  have hnot : Text.asciiLowered Modifier.not.keyword = "not" := by decide
  have hcase : Text.asciiLowered Modifier.caseSensitive.keyword = "case_sensitive" := by decide
  simp [Modifier.ofWord?, Modifier.all, Text.sameWord, hnot, hcase]

theorem ofWord?_connective_eq_none_iff {w : String} (h : IsBareWord w) :
    Connective.ofWord? w = none ↔ Text.asciiLowered w ≠ "and" ∧ Text.asciiLowered w ≠ "or" := by
  have hand : Text.asciiLowered Connective.and.keyword = "and" := by decide
  have hor : Text.asciiLowered Connective.or.keyword = "or" := by decide
  simp [Connective.ofWord?, Text.sameWord, hand, hor, h.ne_glyph]

/-- A word has no role exactly if no kind of reserved word claims it. -/
theorem reserved_eq_unknown {w : String} :
    Role.reserved w = .unknown ↔
      Operator.ofKeyword? w = none ∧ Connective.ofWord? w = none ∧ Modifier.ofWord? w = none := by
  unfold Role.reserved
  cases Operator.ofKeyword? w with
  | some op => simp
  | none =>
    cases Connective.ofWord? w with
    | some c => simp
    | none => cases Modifier.ofWord? w <;> simp

theorem reserved_eq_operator_iff {w : String} {o : Operator} :
    Role.reserved w = .operator o ↔ Operator.ofKeyword? w = some o := by
  unfold Role.reserved
  cases Operator.ofKeyword? w with
  | some op => simp
  | none =>
    cases Connective.ofWord? w with
    | some c => simp
    | none => cases Modifier.ofWord? w <;> simp

theorem reserved_eq_connective_iff {w : String} {k : Connective} :
    Role.reserved w = .connective k ↔
      Operator.ofKeyword? w = none ∧ Connective.ofWord? w = some k := by
  unfold Role.reserved
  cases Operator.ofKeyword? w with
  | some op => simp
  | none =>
    cases Connective.ofWord? w with
    | some c => simp
    | none => cases Modifier.ofWord? w <;> simp

/-- A bare word has no role exactly if the language does not reserve it. -/
theorem reserved_eq_unknown_iff {w : String} (h : IsBareWord w) :
    Role.reserved w = .unknown ↔ ¬ IsReserved w := by
  rw [reserved_eq_unknown, ofKeyword?_eq_none_iff, ofWord?_connective_eq_none_iff h,
    ofWord?_modifier_eq_none_iff]
  simp [IsReserved, and_assoc]

end FilterLang
