import FilterLang.Proofs.Agreement

/-!
# The conditions that the checks see

The checks of fields, operators and values never look at a tree: they look at shapes, which one pass
over the tokens finds with a single flag of memory. Where a text has a tree, the shapes are its
conditions, one for one and in order, so no condition escapes the checks (`shapes_of_parse`).

Two counts follow from the shapes being the conditions. Every condition has exactly one value, so
the conditions can be counted by counting the value tokens of the text; and the fields of the tree
are those of the shapes.
-/

namespace FilterLang

open Grammar

/-! ### Counting values -/

namespace Lexeme

/-- Whether the lexeme is a value, closed or not. -/
def isValue (l : Lexeme) : Bool := l.kind == .value

/-- White space, connectives and the other parts of a condition are no values. -/
theorem isValue_eq_false {l : Lexeme} (h : l.isBlank ∨ l.connective?.isSome ∨ l.modifier?.isSome ∨
    l.name?.isSome ∨ l.operator?.isSome) : l.isValue = false := by
  rcases l with ⟨w, _ | _ | _ | _ | _⟩ | _ | _ | _ | _ | _ | _ | _ <;>
    simp_all [isBlank, connective?, modifier?, name?, operator?, isValue, kind]

theorem isValue_of_content? {l : Lexeme} {v : String} (h : l.content? = some v) :
    l.isValue = true := by
  obtain ⟨q, rfl⟩ := content?_eq_some_iff.1 h
  rfl

end Lexeme

namespace Grammar

variable {n : Nat} {p : Phrase} {ls : List Lexeme} {ts : List Tree} {c : Condition}

/-- Modifiers hold no value. -/
theorem countP_isValue_modifiers {before : List Lexeme} {ms : List Modifier}
    (h : before.map Lexeme.modifier? = ms.map some) : before.countP Lexeme.isValue = 0 := by
  rw [List.countP_eq_zero]
  intro l hl
  simp [Lexeme.isValue_eq_false (.inr (.inr (.inl (isSome_modifier?_of_mem h hl))))]

/-- A condition has one value. -/
theorem IsCondition.countP_isValue (h : IsCondition ls c) : ls.countP Lexeme.isValue = 1 := by
  obtain @⟨before, after, _, _, name, operator, value, _, _, _, hbefore, hname, hafter, hop, hvalue,
    -⟩ := h
  have hname' : name.isValue = false := Lexeme.isValue_eq_false (by simp [hname])
  have hop' : operator.isValue = false := Lexeme.isValue_eq_false (by simp [hop])
  simp [List.countP_append, countP_isValue_modifiers hbefore, countP_isValue_modifiers hafter,
    hname', hop', Lexeme.isValue_of_content? hvalue]

/-- A phrase has as many values as its trees have conditions. -/
theorem Derives.countP_isValue (h : Derives n p ls ts) :
    ls.countP Lexeme.isValue = (Tree.leavesAll ts).length := by
  induction h with
  | condition h => simpa [Tree.leavesAll, Tree.leaves] using h.countP_isValue
  | parentheses _ ih =>
    have hopen : Lexeme.openParen.isValue = false := rfl
    have hclose : Lexeme.closeParen.isValue = false := rfl
    simpa [List.countP_append, List.countP_cons, hopen, hclose, Tree.leavesAll,
      Tree.leaves_ofChain] using ih
  | single _ ih => simpa [Tree.leavesAll, Tree.leaves_ofChain] using ih
  | @joined _ _ l _ _ _ _ _ hl _ ih ih' =>
    have hnone : l.isValue = false := Lexeme.isValue_eq_false (by simp [hl])
    simp [List.countP_append, hnone, ih, ih', Tree.leavesAll, Tree.leaves_ofChain]

end Grammar

/-- White space may be left out where values are counted. -/
theorem countP_isValue_significant (catalog : Catalog) (cs : List Char) :
    (Lexeme.significant catalog cs).countP Lexeme.isValue =
      (Lexeme.cut catalog cs).countP Lexeme.isValue := by
  rw [Lexeme.significant, List.countP_filter]
  refine List.countP_congr fun l _ ↦ ?_
  cases hl : l.isBlank with
  | false => simp
  | true => simp [Lexeme.isValue_eq_false (.inl hl)]

/-! ### Shapes and conditions -/

namespace Check.Shape

/-- Whether a shape is a condition in full: its field is written as the condition names it, its
operator makes the condition's comparison, and its value is closed and holds the condition's. -/
structure IsShapeOf (s : Shape) (c : Condition) : Prop where
  field : s.field.text = c.field
  operator : ∃ t op, s.operator = some t ∧ t.lexeme.operator? = some op ∧
    op.comparison = c.operator.comparison
  value : ∃ t, s.value = some t ∧ t.lexeme.isUnclosed = false ∧ t.lexeme.content? = some c.value

theorem text_of_name? {t : Token} {w : String} (h : t.lexeme.name? = some w) : t.text = w := by
  obtain ⟨r, hr, -⟩ := Lexeme.name?_eq_some_iff.1 h
  simp [Token.text, hr, Lexeme.text, Lexeme.chars]

theorem isUnclosed_of_content? {l : Lexeme} {v : String} (h : l.content? = some v) :
    l.isUnclosed = false := by
  obtain ⟨q, rfl⟩ := Lexeme.content?_eq_some_iff.1 h
  rfl

/-- What shows a condition is its shape. -/
theorem Shows.isShapeOf {s : Shape} {c : Condition} (h : s.Shows c) : s.IsShapeOf c := by
  obtain ⟨hname, hop, t, ht, hvalue⟩ := h
  exact ⟨text_of_name? hname, hop, t, ht, isUnclosed_of_content? hvalue, hvalue⟩

/-- Shapes of conditions name the conditions' fields. -/
theorem map_field_eq {shapes : List Shape} {cs : List Condition}
    (h : List.Forall₂ IsShapeOf shapes cs) :
    shapes.map (fun s ↦ s.field.text) = cs.map Condition.field := by
  induction h with
  | nil => rfl
  | cons h _ ih => rw [List.map_cons, List.map_cons, h.field, ih]

/-- Where a text has a tree, its shapes beside a catalog that leaves the reserved words alone are
the tree's conditions, from left to right. So there are as many conditions as value tokens in the
text, and the tree's fields are those of the shapes. -/
theorem shapes_of_parse (catalog : Catalog) (text : String) (t : Tree)
    (hcat : ∀ name ∈ catalog.names, ¬ IsReserved name) (h : Tree.parse text = .ok t) :
    let shapes := ofTokens (Token.significant (tokenize catalog text))
    List.Forall₂ IsShapeOf shapes t.leaves ∧
      t.conditionCount =
        (tokenize catalog text).countP (fun token ↦ token.lexeme.kind == .value) ∧
      t.fields = (shapes.map fun s ↦ s.field.text).eraseDups := by
  obtain ⟨ts, hd, rfl⟩ := isExpression_of_parse hcat h
  have hcount : (tokenize catalog text).countP (fun token ↦ token.lexeme.kind == .value) =
      (Tree.leavesAll ts).length := by
    have hmap := List.countP_map (p := Lexeme.isValue) (f := Token.lexeme)
      (l := tokenize catalog text)
    rw [tokenize, Token.map_lexeme_place] at hmap
    rw [← hd.countP_isValue, countP_isValue_significant, hmap]
    rfl
  rw [← Token.map_lexeme_significant] at hd
  have hshapes := (shows_ofTokens hd).1.imp fun _ _ hs ↦ hs.isShapeOf
  rw [Tree.conditionCount, Tree.fields, Tree.leaves_ofChain]
  exact ⟨hshapes, hcount.symm, by rw [map_field_eq hshapes]⟩

theorem shapes_of_nested_groups :
    let text := "not channel_name contains 'a or b' and (x case_sensitive_equals \"\" or " ++
      "(channel_name not matches \"(\" && y ends_with 'z'))"
    let t : Tree := .group .and [.condition ⟨"channel_name", ⟨.contains, true, false⟩, "a or b"⟩,
      .group .or [.condition ⟨"x", ⟨.equals, false, true⟩, ""⟩,
        .group .and [.condition ⟨"channel_name", ⟨.pattern, true, false⟩, "("⟩,
          .condition ⟨"y", ⟨.endsWith, false, false⟩, "z"⟩]]]
    (∀ name ∈ Catalog.builtin.names, ¬ IsReserved name) ∧ Tree.parse text = .ok t ∧
      List.Forall₂ IsShapeOf (ofTokens (Token.significant (tokenize Catalog.builtin text)))
        t.leaves ∧
      (tokenize Catalog.builtin text).countP (fun token ↦ token.lexeme.kind == .value) = 4 := by
  intro text t
  have hcat : ∀ name ∈ Catalog.builtin.names, ¬ IsReserved name := by decide
  have ht : Tree.parse text = .ok t := by decide +kernel
  obtain ⟨hshapes, hcount, -⟩ := shapes_of_parse Catalog.builtin text t hcat ht
  exact ⟨hcat, ht, hshapes, hcount.symm⟩

end Check.Shape

end FilterLang
